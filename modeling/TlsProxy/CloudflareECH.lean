import Mathlib.Data.List.Infix
import Mathlib.Data.List.Nodup

/-!
# The ECH entry of Cloudflare HTTPS records

`UpdateECH` rewrites the value of each HTTPS record it is given.  It removes every match of
the regexp `` *ech=[^ ]*``, appends `` ech="configList"``, and sends a PATCH when the result
differs from the value it fetched.  `ReplaceAllString` is modelled by its scan: leftmost
first, a match found at a position is dropped and the search goes on after it.

No `ech=` is left after the removal, which keeps a value with no `ech=`.  Word by word, it
keeps each word up to its first `ech=`, and a word that starts with `ech=` goes with the
spaces before it.  The pattern is not anchored at a parameter, so an `ech=` inside another
parameter's text is cut with the rest of that word.  The rewrite of a rewritten value removes exactly the
appended entry, together with the spaces before it, and gives the first rewrite back only
when the value without its `ech=` entries does not end with a space.

A run fetches each zone once, with the token of the first target naming it, and marks the
zone fetched even when the fetch fails: the names of that first target are then skipped, but
later targets of the zone use what the failed fetch stored.  Every PATCH is for a record so
fetched whose value the rewrite changes, and every such record gets its PATCH.
-/

namespace TlsProxy.Cloudflare

/-- The literal part of the pattern. -/
def echKey : List Char := ['e', 'c', 'h', '=']

/-- The match of `` *ech=[^ ]*`` that the regexp package finds at the start of `s`, if any,
as the rest of `s` after it.  The spaces are greedy and `ech=` starts with no space, so a
match takes every leading space; `[^ ]*` is greedy, so it ends at the next space. -/
def matchECH (s : List Char) : Option (List Char) :=
  match s.dropWhile (· = ' ') with
  | 'e' :: 'c' :: 'h' :: '=' :: rest => some (rest.dropWhile (· ≠ ' '))
  | _ => none

/-- The scan of `ReplaceAllString` with fuel: from the left, a match is dropped and the
search goes on after it; where no match starts, the character is kept. -/
def removeECHAux : Nat → List Char → List Char
  | 0, s => s
  | _ + 1, [] => []
  | fuel + 1, c :: cs =>
    match matchECH (c :: cs) with
    | some rest => removeECHAux fuel rest
    | none => c :: removeECHAux fuel cs

/-- `re.ReplaceAllString(s, "")` for `` *ech=[^ ]*``.  A match is never empty, so the length
of `s` is enough fuel. -/
def removeECH (s : List Char) : List Char :=
  removeECHAux s.length s

theorem matchECH_length {s rest : List Char} (matched : matchECH s = some rest) :
    rest.length + 4 ≤ s.length := by
  unfold matchECH at matched
  split at matched
  · rename_i after dropped
    obtain rfl := Option.some.inj matched
    have spaces := (List.dropWhile_suffix (· = ' ') (l := s)).length_le
    have words := (List.dropWhile_suffix (· ≠ ' ') (l := after)).length_le
    rw [dropped] at spaces
    simp only [List.length_cons] at spaces
    omega
  · contradiction

/-- A match ends at a space or at the end of the string. -/
theorem matchECH_rest {s rest : List Char} (matched : matchECH s = some rest) :
    ∀ c ∈ rest.head?, c = ' ' := by
  unfold matchECH at matched
  split at matched
  · rename_i after _
    obtain rfl := Option.some.inj matched
    intro c first
    have := List.head?_dropWhile_not (fun c => decide (c ≠ ' ')) after
    rw [Option.mem_def.mp first] at this
    simpa using this
  · contradiction

@[simp] theorem matchECH_space (s : List Char) : matchECH (' ' :: s) = matchECH s := by
  simp [matchECH, List.dropWhile_cons]

/-- One more unit of fuel than the length changes nothing. -/
theorem removeECHAux_succ : ∀ (fuel : Nat) (s : List Char), s.length ≤ fuel →
    removeECHAux (fuel + 1) s = removeECHAux fuel s
  | 0, [], _ => rfl
  | _ + 1, [], _ => rfl
  | fuel + 1, c :: cs, short => by
    simp only [List.length_cons, Nat.add_le_add_iff_right] at short
    simp only [removeECHAux]
    split
    · rename_i rest matched
      have := matchECH_length matched
      simp only [List.length_cons] at this
      exact removeECHAux_succ fuel rest (by omega)
    · rw [removeECHAux_succ fuel cs short]

theorem removeECHAux_eq_removeECH {fuel : Nat} {s : List Char} (enough : s.length ≤ fuel) :
    removeECHAux fuel s = removeECH s := by
  obtain ⟨k, rfl⟩ := Nat.exists_eq_add_of_le enough
  induction k with
  | zero => rfl
  | succ k ih => rw [← Nat.add_assoc, removeECHAux_succ _ _ (by omega), ih (by omega)]

@[simp] theorem removeECH_nil : removeECH [] = [] := rfl

theorem removeECH_of_matchECH {s rest : List Char} (matched : matchECH s = some rest) :
    removeECH s = removeECH rest := by
  have := matchECH_length matched
  obtain ⟨c, cs, rfl⟩ : ∃ c cs, s = c :: cs := List.exists_cons_of_length_pos (by omega)
  simp only [removeECH, List.length_cons, removeECHAux, matched]
  exact removeECHAux_eq_removeECH (by simp at this; omega)

theorem removeECH_cons_of_matchECH {c : Char} {cs : List Char}
    (unmatched : matchECH (c :: cs) = none) : removeECH (c :: cs) = c :: removeECH cs := by
  simp only [removeECH, List.length_cons, removeECHAux, unmatched]

/-- Induction along the scan: a match is skipped, a character where no match starts is
kept. -/
@[elab_as_elim]
theorem removeECH_induction {motive : List Char → Prop} (nil : motive [])
    (skip : ∀ s rest, matchECH s = some rest → motive rest → motive s)
    (keep : ∀ c cs, matchECH (c :: cs) = none → motive cs → motive (c :: cs)) :
    ∀ s, motive s
  | [] => nil
  | c :: cs =>
    match matched : matchECH (c :: cs) with
    | some rest => skip _ rest matched (removeECH_induction nil skip keep rest)
    | none => keep c cs matched (removeECH_induction nil skip keep cs)
termination_by s => s.length
decreasing_by
  · have := matchECH_length matched
    simp_wf
    simp only [List.length_cons] at this
    omega
  · simp_wf

/-- `s` is empty or starts with a space. -/
def SpaceOrEnd (s : List Char) : Prop :=
  ∀ c ∈ s.head?, c = ' '

/-- After a match the output goes on with a space or ends. -/
theorem removeECH_spaceOrEnd : ∀ s, SpaceOrEnd s → SpaceOrEnd (removeECH s) := by
  refine removeECH_induction id (fun s rest matched ih _ => ?_) (fun c cs kept _ space => ?_)
  · rw [removeECH_of_matchECH matched]
    exact ih (matchECH_rest matched)
  · rw [removeECH_cons_of_matchECH kept]
    exact space

/-- A character of the output other than a space was kept where no match starts. -/
theorem removeECH_eq_cons {s t : List Char} {d : Char} (out : removeECH s = d :: t)
    (notSpace : d ≠ ' ') : ∃ cs, s = d :: cs ∧ matchECH s = none ∧ t = removeECH cs := by
  rcases s with _ | ⟨c, cs⟩
  · simp at out
  cases matched : matchECH (c :: cs) with
  | some rest =>
    have := removeECH_spaceOrEnd rest (matchECH_rest matched)
    rw [← removeECH_of_matchECH matched, out] at this
    exact absurd (this d rfl) notSpace
  | none =>
    rw [removeECH_cons_of_matchECH matched] at out
    obtain ⟨rfl, rfl⟩ := List.cons.inj out
    exact ⟨cs, rfl, rfl, rfl⟩

/-- No `ech=` is left in the output: one made of kept characters would have been a match. -/
theorem not_echKey_infix_removeECH : ∀ s, ¬echKey <:+: removeECH s := by
  refine removeECH_induction (by simp [echKey]) (fun s rest matched ih => ?_)
    (fun c cs kept ih => ?_)
  · rwa [removeECH_of_matchECH matched]
  · rw [removeECH_cons_of_matchECH kept, List.infix_cons_iff, not_or]
    refine ⟨fun ⟨t, prefixed⟩ => ?_, ih⟩
    simp only [echKey, List.cons_append, List.nil_append, List.cons.injEq] at prefixed
    obtain ⟨rfl, out⟩ := prefixed
    obtain ⟨cs₁, rfl, -, out⟩ := removeECH_eq_cons out.symm (by decide)
    obtain ⟨cs₂, rfl, -, out⟩ := removeECH_eq_cons out.symm (by decide)
    obtain ⟨cs₃, rfl, -, -⟩ := removeECH_eq_cons out.symm (by decide)
    simp [matchECH] at kept

/-- A match is `ech=` after spaces, and what follows the match is a suffix of what follows
its `ech=`. -/
theorem matchECH_eq_some {s rest : List Char} (matched : matchECH s = some rest) :
    ∃ after, echKey ++ after <:+ s ∧ rest <:+ after := by
  unfold matchECH at matched
  split at matched
  · rename_i after dropped
    obtain rfl := Option.some.inj matched
    have key := List.dropWhile_suffix (fun c => decide (c = ' ')) (l := s)
    rw [dropped] at key
    exact ⟨after, key, List.dropWhile_suffix _⟩
  · contradiction

/-- Where there is no `ech=` there is no match: the removal keeps the string. -/
theorem removeECH_of_not_infix : ∀ s, ¬echKey <:+: s → removeECH s = s := by
  refine removeECH_induction (fun _ => rfl) (fun s rest matched _ clean => ?_)
    (fun c cs kept ih clean => ?_)
  · obtain ⟨after, key, -⟩ := matchECH_eq_some matched
    exact absurd ((List.prefix_append echKey after).isInfix.trans key.isInfix) clean
  · rw [removeECH_cons_of_matchECH kept,
      ih fun inner => clean (inner.trans (List.suffix_cons c cs).isInfix)]

/-- The pattern is not anchored at a parameter: after a word with no `ech=`, an `ech=` is
removed up to the next space, and the word is kept. -/
theorem removeECH_word_ech {v : List Char} :
    ∀ {w : List Char}, (∀ c ∈ w, c ≠ ' ') → ¬echKey <:+: w →
      removeECH (w ++ echKey ++ v) = w ++ removeECH (v.dropWhile (· ≠ ' '))
  | [], _, _ => removeECH_of_matchECH (by simp [matchECH, echKey])
  | c :: w, word, clean => by
    have unmatched : matchECH (c :: (w ++ echKey ++ v)) = none := by
      unfold matchECH
      rw [List.dropWhile_cons, if_neg (by simpa using word c (.head _))]
      split
      · rename_i rest found
        rcases w with _ | ⟨x₂, _ | ⟨x₃, _ | ⟨x₄, w⟩⟩⟩ <;> simp [echKey] at found
        obtain ⟨rfl, rfl, rfl, rfl, -⟩ := found
        exact absurd ⟨[], w, rfl⟩ clean
      · rfl
    rw [List.cons_append, List.cons_append, removeECH_cons_of_matchECH unmatched,
      removeECH_word_ech (fun x member => word x (.tail _ member))
        fun inner => clean (inner.trans (List.suffix_cons c w).isInfix)]
    rfl

/-! ### What the removal keeps, word by word

Between spaces a value is made of words.  The scan keeps each word up to its first `ech=` and
drops the rest of it; when the word starts with `ech=` the match also takes the spaces before
it.  `echWords` says so word by word, and the scan computes it. -/

/-- A word cut at its first `ech=`: what stands before it, the whole word when it has none. -/
def cutECH : List Char → List Char
  | [] => []
  | c :: cs => if echKey <+: c :: cs then [] else c :: cutECH cs

theorem length_dropWhile_word_lt {s : List Char} {c : Char} {rest : List Char}
    (h : s.dropWhile (· = ' ') = c :: rest) :
    ((c :: rest).dropWhile (· ≠ ' ')).length < s.length := by
  have first := List.head?_dropWhile_not (· = ' ') s
  rw [h] at first
  have notSpace : c ≠ ' ' := by simpa using first
  have spaces := (List.dropWhile_suffix (· = ' ') (l := s)).length_le
  have word := (List.dropWhile_suffix (· ≠ ' ') (l := rest)).length_le
  rw [h] at spaces
  simp only [List.dropWhile_cons, ne_eq, notSpace, not_false_eq_true, decide_True, if_true,
    List.length_cons] at spaces word ⊢
  omega

/-- What the removal keeps, word by word, a word being a run of characters other than spaces:
each word is cut at its first `ech=`, and a word that starts with `ech=` goes with the spaces
before it; the spaces before any other word, and those at the end, are kept. -/
def echWords (s : List Char) : List Char :=
  match _dropped : s.dropWhile (· = ' ') with
  | [] => s
  | c :: rest =>
    (if echKey <+: (c :: rest).takeWhile (· ≠ ' ') then [] else s.takeWhile (· = ' ')) ++
      cutECH ((c :: rest).takeWhile (· ≠ ' ')) ++ echWords ((c :: rest).dropWhile (· ≠ ' '))
termination_by s.length
decreasing_by exact length_dropWhile_word_lt ‹_›

theorem matchECH_spaces_append {t : List Char} :
    ∀ {sp : List Char}, (∀ c ∈ sp, c = ' ') → matchECH (sp ++ t) = matchECH t
  | [], _ => rfl
  | c :: sp, blank => by
    rw [List.forall_mem_cons] at blank
    rw [blank.1, List.cons_append, matchECH_space, matchECH_spaces_append blank.2]

/-- At the start of a word followed by a space or the end, a match is the whole word, and
there is one exactly when the word starts with `ech=`. -/
theorem matchECH_word {w rest : List Char} (word : ∀ c ∈ w, c ≠ ' ') (nonempty : w ≠ [])
    (space : SpaceOrEnd rest) :
    matchECH (w ++ rest) = if echKey <+: w then some rest else none := by
  obtain ⟨c, w, rfl⟩ := List.exists_cons_of_ne_nil nonempty
  unfold matchECH
  rw [List.cons_append, List.dropWhile_cons, if_neg (by simpa using word c (.head _))]
  split_ifs with keyed
  · obtain ⟨t, split⟩ := keyed
    have tWord : ∀ x ∈ t, x ≠ ' ' := fun x member => word x (split ▸ List.mem_append_right _ member)
    rw [← List.cons_append, ← split]
    simp only [echKey, List.cons_append, List.nil_append]
    rw [List.dropWhile_append_of_pos (by simpa using tWord)]
    rcases rest with _ | ⟨d, rest⟩
    · rfl
    · simp [List.dropWhile_cons, space d rfl]
  · split
    · rename_i after found
      rcases w with _ | ⟨x₂, _ | ⟨x₃, _ | ⟨x₄, w⟩⟩⟩ <;>
        rcases rest with _ | ⟨d, rest⟩ <;> simp [echKey] at found
      -- a word of fewer than four characters would put the rest of `ech=` where a space is
      all_goals first
        | (obtain ⟨rfl, rfl, rfl, rfl, -⟩ := found; exact absurd ⟨_, rfl⟩ keyed)
        | exact absurd (space _ rfl) (by simp_all)
    · rfl

theorem cutECH_of_prefix {w : List Char} (keyed : echKey <+: w) : cutECH w = [] := by
  obtain ⟨t, rfl⟩ := keyed
  simp only [echKey, List.cons_append, cutECH]
  rw [if_pos ⟨t, rfl⟩]

/-- A word followed by a space or the end: the removal keeps it cut at its first `ech=`. -/
theorem removeECH_word {rest : List Char} (space : SpaceOrEnd rest) :
    ∀ {w : List Char}, (∀ c ∈ w, c ≠ ' ') → removeECH (w ++ rest) = cutECH w ++ removeECH rest
  | [], _ => rfl
  | c :: w, word => by
    have matched := matchECH_word word (List.cons_ne_nil c w) space
    rw [cutECH]
    split_ifs at matched ⊢ with keyed
    · rw [removeECH_of_matchECH matched]
      rfl
    · rw [List.cons_append] at matched ⊢
      rw [removeECH_cons_of_matchECH matched,
        removeECH_word space fun x member => word x (.tail _ member)]
      rfl

/-- Spaces, a word, then a space or the end: the spaces go with a word that starts with
`ech=`. -/
theorem removeECH_chunk {w rest : List Char} (word : ∀ c ∈ w, c ≠ ' ') (nonempty : w ≠ [])
    (space : SpaceOrEnd rest) : ∀ {sp : List Char}, (∀ c ∈ sp, c = ' ') →
      removeECH (sp ++ w ++ rest) = (if echKey <+: w then [] else sp) ++ cutECH w ++ removeECH rest
  | [], _ => by simp [removeECH_word space word]
  | c :: sp, blank => by
    rw [List.forall_mem_cons] at blank
    obtain ⟨rfl, blank⟩ := blank
    have matched : matchECH (' ' :: (sp ++ w ++ rest)) =
        if echKey <+: w then some rest else none := by
      rw [matchECH_space, List.append_assoc, matchECH_spaces_append blank,
        matchECH_word word nonempty space]
    split_ifs at matched ⊢ with keyed
    · rw [List.cons_append, List.cons_append, removeECH_of_matchECH matched,
        cutECH_of_prefix keyed]
      rfl
    · rw [List.cons_append, List.cons_append, removeECH_cons_of_matchECH matched,
        removeECH_chunk word nonempty space blank, if_neg keyed]
      rfl

/-- The scan of `ReplaceAllString` removes exactly what `echWords` says. -/
theorem removeECH_eq_echWords (s : List Char) : removeECH s = echWords s := by
  rw [echWords]
  split
  next blank =>
    refine removeECH_of_not_infix s fun inner => ?_
    have := List.dropWhile_eq_nil_iff.mp blank 'e' (inner.subset (by simp [echKey]))
    simp at this
  next c rest after =>
    have first := List.head?_dropWhile_not (· = ' ') s
    rw [after] at first
    have notSpace : c ≠ ' ' := by simpa using first
    have split : s = s.takeWhile (· = ' ') ++ (c :: rest).takeWhile (· ≠ ' ') ++
        (c :: rest).dropWhile (· ≠ ' ') := by
      rw [List.append_assoc, List.takeWhile_append_dropWhile, ← after,
        List.takeWhile_append_dropWhile]
    have space : SpaceOrEnd ((c :: rest).dropWhile (· ≠ ' ')) := by
      intro d head
      have := List.head?_dropWhile_not (· ≠ ' ') (c :: rest)
      rw [Option.mem_def.mp head] at this
      simpa using this
    conv_lhs => rw [split]
    rw [removeECH_chunk (fun x member => by simpa using List.mem_takeWhile_imp member)
      (by simp [List.takeWhile_cons, notSpace]) space
      (fun x member => by simpa using List.mem_takeWhile_imp member),
      removeECH_eq_echWords ((c :: rest).dropWhile (· ≠ ' '))]
termination_by s.length
decreasing_by exact length_dropWhile_word_lt ‹_›

/-! ### The appended `ech=` entry -/

/-- `s` without its trailing spaces. -/
def trimRight : List Char → List Char
  | [] => []
  | c :: cs => if trimRight cs = [] ∧ c = ' ' then [] else c :: trimRight cs

theorem trimRight_eq_nil : ∀ {s : List Char}, trimRight s = [] ↔ ∀ c ∈ s, c = ' '
  | [] => by simp [trimRight]
  | c :: cs => by
    rw [trimRight, List.forall_mem_cons, ← trimRight_eq_nil]
    split_ifs with blank
    · simp [blank]
    · simp only [reduceCtorEq, false_iff]
      tauto

theorem dropWhile_spaces_append {r s : List Char} (blank : ∀ c ∈ r, c = ' ') :
    (r ++ ' ' :: s).dropWhile (· = ' ') = s.dropWhile (· = ' ') := by
  induction r with
  | nil => simp [List.dropWhile_cons]
  | cons c r ih =>
    rw [List.forall_mem_cons] at blank
    simp [List.dropWhile_cons, blank.1, ih blank.2]

/-- Spaces, then the entry `UpdateECH` appends: all of it is one match. -/
theorem matchECH_blank_append {r w : List Char} (blank : ∀ c ∈ r, c = ' ')
    (word : ∀ c ∈ w, c ≠ ' ') : matchECH (r ++ ' ' :: (echKey ++ w)) = some [] := by
  simp [matchECH, dropWhile_spaces_append blank, echKey]
  exact word

/-- Before the appended entry, no match starts at a character of a string with no `ech=`
and not only spaces. -/
theorem matchECH_append_eq_none {w : List Char} :
    ∀ {l : List Char}, ¬(∀ c ∈ l, c = ' ') → ¬echKey <:+: l →
      matchECH (l ++ ' ' :: (echKey ++ w)) = none
  | [], blank, _ => absurd (by simp) blank
  | c :: l, blank, clean => by
    have cleanTail : ¬echKey <:+: l :=
      fun inner => clean (inner.trans (List.suffix_cons c l).isInfix)
    by_cases space : c = ' '
    · subst space
      rw [List.cons_append, matchECH_space]
      exact matchECH_append_eq_none (by simpa using blank) cleanTail
    · unfold matchECH
      rw [List.cons_append, List.dropWhile_cons, if_neg (by simpa using space)]
      split
      · rename_i rest found
        rcases l with _ | ⟨x₂, _ | ⟨x₃, _ | ⟨x₄, l⟩⟩⟩ <;> simp [echKey] at found
        obtain ⟨rfl, rfl, rfl, rfl, -⟩ := found
        exact absurd ⟨[], l, rfl⟩ clean
      · rfl

/-- Removing matches from a string with no `ech=` followed by the appended entry leaves the
string without its trailing spaces: the entry's match takes them. -/
theorem removeECH_append_ech {w : List Char} (word : ∀ c ∈ w, c ≠ ' ') :
    ∀ {r : List Char}, ¬echKey <:+: r → removeECH (r ++ ' ' :: (echKey ++ w)) = trimRight r
  | [], _ => by rw [removeECH_of_matchECH (matchECH_blank_append (by simp) word)]; rfl
  | c :: r, clean => by
    by_cases blank : ∀ x ∈ c :: r, x = ' '
    · rw [removeECH_of_matchECH (matchECH_blank_append blank word), trimRight_eq_nil.mpr blank]
      rfl
    · have cleanTail : ¬echKey <:+: r :=
        fun inner => clean (inner.trans (List.suffix_cons c r).isInfix)
      have unmatched : matchECH (c :: (r ++ ' ' :: (echKey ++ w))) = none :=
        matchECH_append_eq_none blank clean
      rw [List.cons_append, removeECH_cons_of_matchECH unmatched,
        removeECH_append_ech word cleanTail, trimRight, if_neg]
      rw [trimRight_eq_nil, List.forall_mem_cons] at *
      tauto

theorem trimRight_trimRight : ∀ s : List Char, trimRight (trimRight s) = trimRight s
  | [] => rfl
  | c :: cs => by
    rw [trimRight]
    split_ifs with blank
    · rfl
    · rw [trimRight, trimRight_trimRight cs, if_neg blank]

theorem trimRight_eq_self : ∀ {s : List Char}, trimRight s = s ↔ s.getLast? ≠ some ' '
  | [] => by simp [trimRight]
  | c :: cs => by
    rw [trimRight, List.getLast?_cons]
    split_ifs with blank
    · obtain ⟨empty, rfl⟩ := blank
      have spaces := trimRight_eq_nil.mp empty
      cases last : cs.getLast? with
      | none => simp
      | some x => simp [spaces x (List.mem_of_getLast?_eq_some last)]
    · rw [List.cons.injEq, trimRight_eq_self]
      cases last : cs.getLast? with
      | none =>
        rw [List.getLast?_eq_none_iff.mp last] at blank
        simpa [trimRight] using blank
      | some x => simp

/-- The value `UpdateECH` computes for a record whose value is `value`: every match of
`` *ech=[^ ]*`` removed, then `` ech="configList"`` appended. -/
def updatedValue (configList value : String) : String :=
  String.mk (removeECH value.toList) ++ " ech=\"" ++ configList ++ "\""

/-- The appended entry after its leading space and `ech=`. -/
def quotedConfigList (configList : String) : List Char :=
  '"' :: configList.toList ++ ['"']

theorem updatedValue_toList (configList value : String) :
    (updatedValue configList value).toList =
      removeECH value.toList ++ ' ' :: (echKey ++ quotedConfigList configList) := by
  simp [updatedValue, quotedConfigList, String.toList, String.data_append, echKey]

theorem quotedConfigList_no_space {configList : String} (noSpace : ' ' ∉ configList.toList) :
    ∀ c ∈ quotedConfigList configList, c ≠ ' ' := by
  intro c member
  simp only [quotedConfigList, List.cons_append, List.mem_cons, List.mem_append,
    List.mem_singleton, List.not_mem_nil, or_false] at member
  rcases member with rfl | inside | rfl
  · decide
  · rintro rfl
    exact noSpace inside
  · decide

/-- Rewriting twice removes the appended entry again, with the trailing spaces before it. -/
theorem updatedValue_twice_toList {configList : String} (noSpace : ' ' ∉ configList.toList)
    (value : String) :
    (updatedValue configList (updatedValue configList value)).toList =
      trimRight (removeECH value.toList) ++ ' ' :: (echKey ++ quotedConfigList configList) := by
  rw [updatedValue_toList, updatedValue_toList,
    removeECH_append_ech (quotedConfigList_no_space noSpace) (not_echKey_infix_removeECH _)]

theorem updatedValue_twice_eq {configList : String} (noSpace : ' ' ∉ configList.toList)
    (value : String) :
    updatedValue configList (updatedValue configList value) = updatedValue configList value ↔
      (removeECH value.toList).getLast? ≠ some ' ' := by
  rw [String.ext_iff]
  show (updatedValue configList _).toList = (updatedValue configList _).toList ↔ _
  rw [updatedValue_twice_toList noSpace, updatedValue_toList, List.append_left_inj,
    trimRight_eq_self]

theorem updatedValue_thrice {configList : String} (noSpace : ' ' ∉ configList.toList)
    (value : String) :
    updatedValue configList (updatedValue configList (updatedValue configList value)) =
      updatedValue configList (updatedValue configList value) := by
  rw [String.ext_iff]
  show (updatedValue configList _).toList = (updatedValue configList _).toList
  rw [updatedValue_twice_toList noSpace, updatedValue_twice_toList noSpace, updatedValue_toList,
    removeECH_append_ech (quotedConfigList_no_space noSpace) (not_echKey_infix_removeECH _),
    trimRight_trimRight]

/-- A record rewritten once is left alone by the next rewrite exactly when its value without
`ech=` entries does not end with a space; rewritten twice, it is always left alone. -/
theorem updatedValue_stable (configList value : String) (noSpace : ' ' ∉ configList.toList) :
    (updatedValue configList (updatedValue configList value) = updatedValue configList value ↔
        (removeECH value.toList).getLast? ≠ some ' ') ∧
      updatedValue configList (updatedValue configList (updatedValue configList value)) =
        updatedValue configList (updatedValue configList value) :=
  ⟨updatedValue_twice_eq noSpace value, updatedValue_thrice noSpace value⟩

theorem updatedValue_stable_alpn :
    ' ' ∉ "AEX".toList ∧
      (updatedValue "AEX" (updatedValue "AEX" "alpn=h2") = updatedValue "AEX" "alpn=h2" ↔
        (removeECH "alpn=h2".toList).getLast? ≠ some ' ') ∧
      updatedValue "AEX" (updatedValue "AEX" (updatedValue "AEX" "alpn=h2")) =
        updatedValue "AEX" (updatedValue "AEX" "alpn=h2") :=
  ⟨by decide, updatedValue_stable "AEX" "alpn=h2" (by decide)⟩

/-- The rewrite keeps the rest of the record's value word by word, as `echWords` says: each
word cut at its first `ech=`, the spaces before a word that starts with `ech=` removed with it,
every other space kept; a value with no `ech=` is kept whole. -/
theorem updatedValue_keeps_rest (configList value : String) :
    updatedValue configList value =
        String.mk (echWords value.toList) ++ " ech=\"" ++ configList ++ "\"" ∧
      (¬echKey <:+: value.toList →
        updatedValue configList value = value ++ " ech=\"" ++ configList ++ "\"") :=
  ⟨by rw [updatedValue, removeECH_eq_echWords], fun clean => by
    rw [updatedValue, removeECH_of_not_infix _ clean]
    rfl⟩

/-- The rewrite also cuts an `ech=` that stands inside another parameter: after a word with
no space and no `ech=`, the value loses everything from `ech=` to the next space. -/
theorem updatedValue_cuts_inside_word (configList : String) {w v : List Char}
    (word : ∀ c ∈ w, c ≠ ' ') (clean : ¬echKey <:+: w) :
    updatedValue configList (String.mk (w ++ echKey ++ v)) =
      String.mk (w ++ removeECH (v.dropWhile (· ≠ ' '))) ++ " ech=\"" ++ configList ++ "\"" := by
  rw [updatedValue, show (String.mk (w ++ echKey ++ v)).toList = w ++ echKey ++ v from rfl,
    removeECH_word_ech word clean]

theorem updatedValue_cuts_inside_word_key65000 :
    (∀ c ∈ "key65000=no".toList, c ≠ ' ') ∧ ¬echKey <:+: "key65000=no".toList ∧
      updatedValue "AEX" (String.mk ("key65000=no".toList ++ echKey ++ "1 alpn=h2".toList)) =
        String.mk ("key65000=no".toList ++ removeECH ("1 alpn=h2".toList.dropWhile (· ≠ ' '))) ++
          " ech=\"" ++ "AEX" ++ "\"" :=
  have word : ∀ c ∈ "key65000=no".toList, c ≠ ' ' := by decide
  have clean : ¬echKey <:+: "key65000=no".toList := by decide
  ⟨word, clean, updatedValue_cuts_inside_word "AEX" word clean⟩

/-! ### `UpdateECH` -/

/-- `Target`: the API token, the zone, and the names of the zone's HTTPS records to update. -/
structure Target where
  token : String
  zone : String
  names : List String

/-- `httpsData`: the content of an HTTPS record. -/
structure HTTPSData where
  priority : Int
  target : String
  value : String
  deriving DecidableEq, Repr

/-- `idData`: where a record is, and its content. -/
structure IdData where
  zoneID : String
  recordID : String
  data : HTTPSData
  deriving DecidableEq, Repr

/-- The calls `UpdateECH` makes to the Cloudflare API.  `getZoneData` returns the records it
stores into `data`, in order, and its error, if any: an error on a later page comes after
the records of the earlier pages are stored.  `updateRecord` returns its error, if any. -/
structure CloudflareAPI where
  getZoneData : (token zone : String) → List (String × IdData) × Option String
  updateRecord : (token zoneID recordID : String) → HTTPSData → Option String

/-- A run of `UpdateECH` so far: the zones fetched, the map `data` with its latest write
first, the PATCH requests sent, and the log. -/
structure ECHRun where
  zones : List String
  data : List ((String × String) × IdData)
  patches : List (String × String × HTTPSData)
  log : List String
  deriving DecidableEq, Repr

/-- The body of the loop over `r.Names`. -/
def ECHRun.updateName (api : CloudflareAPI) (configList : String) (r : Target) (st : ECHRun)
    (name : String) : ECHRun :=
  match st.data.lookup (r.zone, name) with
  | none => { st with log := st.log ++ ["ERR cloudflare [" ++ r.zone ++ "] " ++ name ++
      " doesn't exist"] }
  | some v =>
    let value := updatedValue configList v.data.value
    if value = v.data.value then st
    else
      let data := { v.data with value }
      let failed := match api.updateRecord r.token v.zoneID v.recordID data with
        | some err => ["ERR cloudflare [" ++ r.zone ++ "] " ++ name ++ ": " ++ err]
        | none => []
      { st with
        patches := st.patches ++ [(v.zoneID, v.recordID, data)]
        log := st.log ++ failed ++ ["INF cloudflare [" ++ r.zone ++ "] " ++ name ++ ": updated"] }

/-- The body of the loop over `records`: fetch the zone the first time it is seen, and skip
the record's names when that fails. -/
def ECHRun.updateTarget (api : CloudflareAPI) (configList : String) (st : ECHRun)
    (r : Target) : ECHRun :=
  if r.zone ∈ st.zones then r.names.foldl (·.updateName api configList r) st
  else
    let fetched := api.getZoneData r.token r.zone
    let st := { st with
      zones := st.zones ++ [r.zone]
      data := (fetched.1.map fun (name, v) => ((r.zone, name), v)).reverse ++ st.data }
    match fetched.2 with
    | some err => { st with log := st.log ++ ["ERR cloudflare [" ++ r.zone ++ "]: " ++ err] }
    | none => r.names.foldl (·.updateName api configList r) st

/-- `UpdateECH(ctx, records, configList, logger)`. -/
def updateECH (api : CloudflareAPI) (records : List Target) (configList : String) : ECHRun :=
  records.foldl (·.updateTarget api configList) ⟨[], [], [], []⟩

/-- No PATCH sent yet, and every record fetched so far already has the value `UpdateECH`
would give it. -/
def ECHRun.Quiet (configList : String) (st : ECHRun) : Prop :=
  st.patches = [] ∧ ∀ e ∈ st.data, updatedValue configList e.2.data.value = e.2.data.value

theorem mem_of_lookup_eq_some {key : String × String} {v : IdData} :
    ∀ {l : List ((String × String) × IdData)}, l.lookup key = some v → ∃ k, (k, v) ∈ l
  | [], found => by rw [List.lookup_nil] at found; cases found
  | (k, w) :: l, found => by
    rw [List.lookup_cons] at found
    split at found
    · exact ⟨k, by simp [Option.some.inj found]⟩
    · obtain ⟨k', mem⟩ := mem_of_lookup_eq_some found
      exact ⟨k', List.mem_cons_of_mem _ mem⟩

section Quiet

variable {api : CloudflareAPI} {configList : String}

theorem updateName_quiet {r : Target} {st : ECHRun} (quiet : st.Quiet configList)
    (name : String) : (st.updateName api configList r name).Quiet configList := by
  unfold ECHRun.updateName
  split
  · exact quiet
  · rename_i v found
    obtain ⟨k, mem⟩ := mem_of_lookup_eq_some found
    rw [if_pos (quiet.2 _ mem)]
    exact quiet

theorem foldl_updateName_quiet {r : Target} :
    ∀ (names : List String) {st : ECHRun}, st.Quiet configList →
      (names.foldl (·.updateName api configList r) st).Quiet configList
  | [], _, quiet => quiet
  | name :: names, _, quiet => foldl_updateName_quiet names (updateName_quiet quiet name)

theorem updateTarget_quiet {r : Target} {st : ECHRun} (quiet : st.Quiet configList)
    (settled : ∀ e ∈ (api.getZoneData r.token r.zone).1,
      updatedValue configList e.2.data.value = e.2.data.value) :
    (st.updateTarget api configList r).Quiet configList := by
  unfold ECHRun.updateTarget
  split_ifs
  · exact foldl_updateName_quiet _ quiet
  · have fetched : ECHRun.Quiet configList { st with
        zones := st.zones ++ [r.zone]
        data := ((api.getZoneData r.token r.zone).1.map fun (name, v) =>
          ((r.zone, name), v)).reverse ++ st.data } := by
      refine ⟨quiet.1, fun e mem => ?_⟩
      simp only [List.mem_append, List.mem_reverse, List.mem_map] at mem
      rcases mem with ⟨⟨name, v⟩, listed, rfl⟩ | stored
      · simpa using settled _ listed
      · exact quiet.2 e stored
    dsimp only
    split
    · exact fetched
    · exact foldl_updateName_quiet _ fetched

theorem foldl_updateTarget_quiet :
    ∀ (records : List Target) {st : ECHRun}, st.Quiet configList →
      (∀ r ∈ records, ∀ e ∈ (api.getZoneData r.token r.zone).1,
        updatedValue configList e.2.data.value = e.2.data.value) →
      (records.foldl (·.updateTarget api configList) st).Quiet configList
  | [], _, quiet, _ => quiet
  | r :: records, _, quiet, settled =>
    foldl_updateTarget_quiet records
      (updateTarget_quiet quiet (settled r (List.mem_cons_self _ _)))
      fun r' member => settled r' (List.mem_cons_of_mem _ member)

end Quiet

/-- A run of `UpdateECH` on zones whose records have each been rewritten twice already,
with a configuration list without spaces, sends no PATCH. -/
theorem updateECH_no_patch_after_two_rewrites (api : CloudflareAPI) (records : List Target)
    (configList : String) (noSpace : ' ' ∉ configList.toList)
    (served : ∀ r ∈ records, ∀ e ∈ (api.getZoneData r.token r.zone).1,
      ∃ value, e.2.data.value = updatedValue configList (updatedValue configList value)) :
    (updateECH api records configList).patches = [] := by
  refine (foldl_updateTarget_quiet records ⟨rfl, by simp⟩ fun r member e fetched => ?_).1
  obtain ⟨value, rewritten⟩ := served r member e fetched
  rw [rewritten, updatedValue_thrice noSpace]

/-- The zone `example.com` with one HTTPS record, of value `value`; every update succeeds. -/
def servingValue (value : String) : CloudflareAPI where
  getZoneData _ _ := ([("example.com", ⟨"zone1", "record1", ⟨1, ".", value⟩⟩)], none)
  updateRecord _ _ _ _ := none

def exampleTarget : Target := ⟨"token", "example.com", ["example.com"]⟩

theorem updateECH_no_patch_after_two_rewrites_served :
    ' ' ∉ "AEX".toList ∧
      (∀ r ∈ [exampleTarget], ∀ e ∈ ((servingValue (updatedValue "AEX"
          (updatedValue "AEX" "alpn=h2 "))).getZoneData r.token r.zone).1,
        ∃ value, e.2.data.value = updatedValue "AEX" (updatedValue "AEX" value)) ∧
      (updateECH (servingValue (updatedValue "AEX" (updatedValue "AEX" "alpn=h2 ")))
        [exampleTarget] "AEX").patches = [] := by
  have noSpace : ' ' ∉ "AEX".toList := by decide
  have served : ∀ r ∈ [exampleTarget], ∀ e ∈ ((servingValue (updatedValue "AEX"
      (updatedValue "AEX" "alpn=h2 "))).getZoneData r.token r.zone).1,
      ∃ value, e.2.data.value = updatedValue "AEX" (updatedValue "AEX" value) := by
    simpa [servingValue] using ⟨_, rfl⟩
  exact ⟨noSpace, served, updateECH_no_patch_after_two_rewrites _ _ _ noSpace served⟩

/-- The record `alpn=h2 ` ends with a space.  The first run appends the entry after it and
sends a PATCH; a second run with the same configuration list takes the two spaces with the
entry's match, writes one space back and sends another PATCH. -/
theorem updateECH_patches_again :
    updatedValue "AEX" (updatedValue "AEX" "alpn=h2 ") ≠ updatedValue "AEX" "alpn=h2 " ∧
      (updateECH (servingValue "alpn=h2 ") [exampleTarget] "AEX").patches =
        [("zone1", "record1", ⟨1, ".", "alpn=h2  ech=\"AEX\""⟩)] ∧
      (updateECH (servingValue "alpn=h2  ech=\"AEX\"") [exampleTarget] "AEX").patches =
        [("zone1", "record1", ⟨1, ".", "alpn=h2 ech=\"AEX\""⟩)] := by
  decide

/-! ### What a run fetches -/

section Fetched

variable (api : CloudflareAPI) (configList : String)

@[simp] theorem updateName_zones (r : Target) (st : ECHRun) (name : String) :
    (st.updateName api configList r name).zones = st.zones := by
  unfold ECHRun.updateName
  split
  · rfl
  · dsimp only
    split_ifs <;> rfl

@[simp] theorem updateName_data (r : Target) (st : ECHRun) (name : String) :
    (st.updateName api configList r name).data = st.data := by
  unfold ECHRun.updateName
  split
  · rfl
  · dsimp only
    split_ifs <;> rfl

theorem foldl_updateName_frame (r : Target) :
    ∀ (names : List String) (st : ECHRun),
      (names.foldl (·.updateName api configList r) st).zones = st.zones ∧
        (names.foldl (·.updateName api configList r) st).data = st.data
  | [], _ => ⟨rfl, rfl⟩
  | name :: names, st => by
    simpa using foldl_updateName_frame r names (st.updateName api configList r name)

/-- What the body of the loop over `records` does to the zones fetched and to `data`: a
zone not fetched yet is fetched, and its records are stored, whether or not the fetch
failed. -/
theorem updateTarget_fetch (st : ECHRun) (r : Target) :
    (st.updateTarget api configList r).zones =
        (if r.zone ∈ st.zones then st.zones else st.zones ++ [r.zone]) ∧
      (st.updateTarget api configList r).data =
        if r.zone ∈ st.zones then st.data
        else
          ((api.getZoneData r.token r.zone).1.map fun (name, v) => ((r.zone, name), v)).reverse ++
            st.data := by
  unfold ECHRun.updateTarget
  split_ifs
  · exact foldl_updateName_frame api configList r _ st
  · dsimp only
    split
    · exact ⟨rfl, rfl⟩
    · exact foldl_updateName_frame api configList r _ _

theorem lookup_map_zone {zone z n : String} :
    ∀ l : List (String × IdData),
      (l.map fun (name, v) => ((zone, name), v)).lookup (z, n) =
        if z = zone then l.lookup n else none
  | [] => by simp
  | (name, v) :: l => by
    rw [List.map_cons, List.lookup_cons, List.lookup_cons, lookup_map_zone l]
    cases key : ((z, n) == (zone, name)) <;> cases named : (n == name) <;> simp_all

/-- After the targets `done`: each zone they name has been fetched once, and `data` holds,
for each zone, the records fetched with the token of the first target naming it, the last
record of each name winning. -/
structure Fetched (api : CloudflareAPI) (done : List Target) (st : ECHRun) : Prop where
  zones_nodup : st.zones.Nodup
  mem_zones : ∀ z, z ∈ st.zones ↔ ∃ r ∈ done, r.zone = z
  lookup_data : ∀ z n, st.data.lookup (z, n) =
    (done.find? (·.zone = z)).bind fun r => (api.getZoneData r.token z).1.reverse.lookup n

theorem fetched_nil : Fetched api [] ⟨[], [], [], []⟩ :=
  ⟨List.nodup_nil, by simp, by simp⟩

theorem fetched_step {done : List Target} {st : ECHRun} (fetched : Fetched api done st)
    (r : Target) : Fetched api (done ++ [r]) (st.updateTarget api configList r) := by
  obtain ⟨zones, data⟩ := updateTarget_fetch api configList st r
  by_cases seen : r.zone ∈ st.zones
  · rw [if_pos seen] at zones data
    obtain ⟨r', listed, same⟩ := (fetched.mem_zones _).mp seen
    refine ⟨zones ▸ fetched.zones_nodup, fun z => ?_, fun z n => ?_⟩
    · rw [zones, fetched.mem_zones]
      simp only [List.mem_append, List.mem_singleton]
      constructor
      · rintro ⟨r'', member, rfl⟩
        exact ⟨r'', .inl member, rfl⟩
      · rintro ⟨r'', member | rfl, rfl⟩
        exacts [⟨r'', member, rfl⟩, ⟨r', listed, same⟩]
    · rw [data, fetched.lookup_data, List.find?_append]
      by_cases zone : r.zone = z
      · have found : (done.find? (·.zone = z)).isSome := by
          rw [List.find?_isSome]
          exact ⟨r', listed, by simp [same, zone]⟩
        obtain ⟨r'', found⟩ := Option.isSome_iff_exists.mp found
        simp [found]
      · simp [List.find?_singleton, zone]
  · rw [if_neg seen] at zones data
    have unseen : done.find? (·.zone = r.zone) = none := by
      rw [List.find?_eq_none]
      exact fun r' listed same => seen ((fetched.mem_zones _).mpr ⟨r', listed, by simpa using same⟩)
    refine ⟨zones ▸ fetched.zones_nodup.append (List.nodup_singleton _) (by simpa using seen),
      fun z => ?_, fun z n => ?_⟩
    · simp [zones, fetched.mem_zones, or_and_right, exists_or, eq_comm]
    · rw [data, List.lookup_append, ← List.map_reverse, lookup_map_zone, fetched.lookup_data,
        List.find?_append]
      by_cases zone : z = r.zone
      · subst zone
        simp [unseen]
      · simp [zone, Ne.symm zone, List.find?_singleton]

theorem foldl_fetched :
    ∀ (records : List Target) {done : List Target} {st : ECHRun}, Fetched api done st →
      Fetched api (done ++ records) (records.foldl (·.updateTarget api configList) st)
  | [], _, _, fetched => by simpa using fetched
  | r :: records, done, _, fetched => by
    simpa using foldl_fetched records (fetched_step api configList fetched r)

/-- A PATCH for the record `v`: its data with the rewritten value, sent when that value
differs from the fetched one. -/
def PatchFor (configList : String) (v : IdData) (p : String × String × HTTPSData) : Prop :=
  p = (v.zoneID, v.recordID, { v.data with value := updatedValue configList v.data.value }) ∧
    updatedValue configList v.data.value ≠ v.data.value

theorem updateName_patches (r : Target) (st : ECHRun) (name : String) :
    ∃ extra, (st.updateName api configList r name).patches = st.patches ++ extra ∧
      ∀ p ∈ extra, ∃ v, st.data.lookup (r.zone, name) = some v ∧ PatchFor configList v p := by
  unfold ECHRun.updateName
  split
  · exact ⟨[], by simp, by simp⟩
  · rename_i v found
    dsimp only
    split_ifs with same
    · exact ⟨[], by simp, by simp⟩
    · refine ⟨_, rfl, fun p member => ⟨v, found, ?_⟩⟩
      rw [List.mem_singleton.mp member]
      exact ⟨rfl, same⟩

theorem foldl_updateName_patches (r : Target) :
    ∀ (names : List String) (st : ECHRun), ∃ extra,
      (names.foldl (·.updateName api configList r) st).patches = st.patches ++ extra ∧
        ∀ p ∈ extra, ∃ name ∈ names, ∃ v, st.data.lookup (r.zone, name) = some v ∧
          PatchFor configList v p
  | [], _ => ⟨[], by simp, by simp⟩
  | name :: names, st => by
    obtain ⟨first, grown, sent⟩ := updateName_patches api configList r st name
    obtain ⟨rest, grown', sent'⟩ := foldl_updateName_patches r names
      (st.updateName api configList r name)
    refine ⟨first ++ rest, by simp [grown', grown], fun p member => ?_⟩
    rcases List.mem_append.mp member with early | late
    · obtain ⟨v, found, patch⟩ := sent p early
      exact ⟨name, List.mem_cons_self _ _, v, found, patch⟩
    · obtain ⟨name', listed, v, found, patch⟩ := sent' p late
      exact ⟨name', List.mem_cons_of_mem _ listed, v, by simpa using found, patch⟩

/-- The PATCH requests of the body of the loop over `records`: each for a name the target
lists, to the record the map holds afterwards for the target's zone and that name. -/
theorem updateTarget_patches (st : ECHRun) (r : Target) : ∃ extra,
    (st.updateTarget api configList r).patches = st.patches ++ extra ∧
      ∀ p ∈ extra, ∃ name ∈ r.names, ∃ v,
        (st.updateTarget api configList r).data.lookup (r.zone, name) = some v ∧
          PatchFor configList v p := by
  rw [(updateTarget_fetch api configList st r).2]
  unfold ECHRun.updateTarget
  split_ifs
  · simpa using foldl_updateName_patches api configList r r.names st
  · dsimp only
    split
    · exact ⟨[], by simp, by simp⟩
    · simpa using foldl_updateName_patches api configList r r.names _

/-- The PATCH requests sent after the targets `done`: each for a name a target of `done`
lists, to the record the map holds for the target's zone and that name. -/
def PatchesSound (api : CloudflareAPI) (configList : String) (done : List Target)
    (st : ECHRun) : Prop :=
  Fetched api done st ∧ ∀ p ∈ st.patches, ∃ r ∈ done, ∃ name ∈ r.names, ∃ v,
    st.data.lookup (r.zone, name) = some v ∧ PatchFor configList v p

theorem patchesSound_step {done : List Target} {st : ECHRun}
    (sound : PatchesSound api configList done st) (r : Target) :
    PatchesSound api configList (done ++ [r]) (st.updateTarget api configList r) := by
  obtain ⟨fetched, sent⟩ := sound
  have fetched' := fetched_step api configList fetched r
  obtain ⟨extra, grown, sent'⟩ := updateTarget_patches api configList st r
  refine ⟨fetched', fun p member => ?_⟩
  rw [grown] at member
  rcases List.mem_append.mp member with old | new
  · obtain ⟨r', listed, name, named, v, found, patch⟩ := sent p old
    have kept : (done.find? (·.zone = r'.zone)).isSome := by
      rw [List.find?_isSome]
      exact ⟨r', listed, by simp⟩
    obtain ⟨first, kept⟩ := Option.isSome_iff_exists.mp kept
    refine ⟨r', List.mem_append_left _ listed, name, named, v, ?_, patch⟩
    rw [fetched.lookup_data, kept] at found
    rw [fetched'.lookup_data, List.find?_append, kept]
    exact found
  · obtain ⟨name, named, v, found, patch⟩ := sent' p new
    exact ⟨r, List.mem_append_right _ (List.mem_singleton_self _), name, named, v, found, patch⟩

theorem foldl_patchesSound :
    ∀ (records : List Target) {done : List Target} {st : ECHRun},
      PatchesSound api configList done st →
        PatchesSound api configList (done ++ records)
          (records.foldl (·.updateTarget api configList) st)
  | [], _, _, sound => by simpa using sound
  | r :: records, done, _, sound => by
    simpa using foldl_patchesSound records (patchesSound_step api configList sound r)

/-- The name step sends the PATCH of a record the map holds whose value the rewrite changes. -/
theorem updateName_sends {r : Target} {st : ECHRun} {name : String} {v : IdData}
    (found : st.data.lookup (r.zone, name) = some v)
    (changed : updatedValue configList v.data.value ≠ v.data.value) :
    (v.zoneID, v.recordID, { v.data with value := updatedValue configList v.data.value }) ∈
      (st.updateName api configList r name).patches := by
  simp only [ECHRun.updateName, found, if_neg changed]
  exact List.mem_append_right _ (List.mem_singleton_self _)

theorem foldl_updateName_sends (r : Target) {name : String} {v : IdData}
    (changed : updatedValue configList v.data.value ≠ v.data.value) :
    ∀ {names : List String} {st : ECHRun}, name ∈ names → st.data.lookup (r.zone, name) = some v →
      (v.zoneID, v.recordID, { v.data with value := updatedValue configList v.data.value }) ∈
        (names.foldl (·.updateName api configList r) st).patches
  | [], _, listed, _ => absurd listed (List.not_mem_nil _)
  | name' :: names, st, listed, found => by
    obtain ⟨rest, grown, -⟩ :=
      foldl_updateName_patches api configList r names (st.updateName api configList r name')
    rw [List.foldl_cons]
    rcases List.mem_cons.mp listed with rfl | later
    · exact grown ▸ List.mem_append_left _ (updateName_sends api configList found changed)
    · exact foldl_updateName_sends r changed later (by rwa [updateName_data])

/-- A run only ever appends PATCH requests. -/
theorem foldl_updateTarget_grows :
    ∀ (records : List Target) (st : ECHRun), ∃ extra,
      (records.foldl (·.updateTarget api configList) st).patches = st.patches ++ extra
  | [], st => ⟨[], by simp⟩
  | r :: records, st => by
    obtain ⟨first, grown, -⟩ := updateTarget_patches api configList st r
    obtain ⟨rest, grown'⟩ := foldl_updateTarget_grows records (st.updateTarget api configList r)
    exact ⟨first ++ rest, by rw [List.foldl_cons, grown', grown, List.append_assoc]⟩

/-- The target step sends the PATCH of each of its names whose record, fetched with the token
of the zone's first target, needs the rewrite, once that fetch succeeded or when an earlier
target named the zone. -/
theorem updateTarget_sends {done : List Target} {st : ECHRun} (fetched : Fetched api done st)
    {r first : Target} {name : String} {v : IdData}
    (isFirst : (done ++ [r]).find? (·.zone = r.zone) = some first) (named : name ∈ r.names)
    (ok : (api.getZoneData first.token r.zone).2 = none ∨ ∃ r' ∈ done, r'.zone = r.zone)
    (found : (api.getZoneData first.token r.zone).1.reverse.lookup name = some v)
    (changed : updatedValue configList v.data.value ≠ v.data.value) :
    (v.zoneID, v.recordID, { v.data with value := updatedValue configList v.data.value }) ∈
      (st.updateTarget api configList r).patches := by
  have stored : (st.updateTarget api configList r).data.lookup (r.zone, name) = some v := by
    rw [(fetched_step api configList fetched r).lookup_data, isFirst]
    exact found
  obtain ⟨-, data⟩ := updateTarget_fetch api configList st r
  unfold ECHRun.updateTarget
  by_cases seen : r.zone ∈ st.zones
  · rw [if_pos seen] at data ⊢
    exact foldl_updateName_sends api configList r changed named (data ▸ stored)
  · rw [if_neg seen] at data ⊢
    have unseen : done.find? (·.zone = r.zone) = none :=
      List.find?_eq_none.mpr fun r' listed same =>
        seen ((fetched.mem_zones _).mpr ⟨r', listed, by simpa using same⟩)
    obtain rfl : r = first := by simpa [List.find?_append, unseen] using isFirst
    simp only [ok.resolve_right fun ⟨r', listed, same⟩ =>
      seen ((fetched.mem_zones _).mpr ⟨r', listed, same⟩)]
    exact foldl_updateName_sends api configList r changed named (data ▸ stored)

end Fetched

/-- Every PATCH a run of `UpdateECH` sends is for a name that one of its targets lists, goes
to the last record of that name fetched for the target's zone with the token of the first
target naming the zone, and carries that record's data with the rewritten value, which
differs from the value fetched. -/
theorem updateECH_patches_sound (api : CloudflareAPI) (records : List Target)
    (configList : String) :
    ∀ p ∈ (updateECH api records configList).patches, ∃ r ∈ records, ∃ name ∈ r.names,
      ∃ first v, records.find? (·.zone = r.zone) = some first ∧
        (api.getZoneData first.token r.zone).1.reverse.lookup name = some v ∧
        p = (v.zoneID, v.recordID, { v.data with value := updatedValue configList v.data.value }) ∧
        updatedValue configList v.data.value ≠ v.data.value := by
  intro p member
  obtain ⟨fetched, sent⟩ := foldl_patchesSound api configList records
    (⟨fetched_nil api, by simp⟩ : PatchesSound api configList [] ⟨[], [], [], []⟩)
  obtain ⟨r, listed, name, named, v, found, sent, changed⟩ := sent p member
  rw [fetched.lookup_data, List.nil_append] at found
  obtain ⟨first, firstFound, fetchedRecord⟩ := Option.bind_eq_some.mp found
  exact ⟨r, listed, name, named, first, v, firstFound, fetchedRecord, sent, changed⟩

/-- A run of `UpdateECH` fetches each zone its targets name once, and for each zone keeps
in `data` the records fetched with the token of the first target naming the zone, the last
record of each name winning: later targets of the zone, whatever their token, see those. -/
theorem updateECH_fetches_once (api : CloudflareAPI) (records : List Target)
    (configList : String) :
    (updateECH api records configList).zones.Nodup ∧
      (∀ z, z ∈ (updateECH api records configList).zones ↔ ∃ r ∈ records, r.zone = z) ∧
      ∀ z n, (updateECH api records configList).data.lookup (z, n) =
        (records.find? (·.zone = z)).bind fun r =>
          (api.getZoneData r.token z).1.reverse.lookup n := by
  have fetched := foldl_fetched api configList records (fetched_nil api)
  exact ⟨fetched.zones_nodup, fetched.mem_zones, fetched.lookup_data⟩

/-- Every name of a target whose record needs the rewrite gets its PATCH.  The record is the
last one stored under the name by the fetch of the target's zone, made with the token of the
zone's first target; the PATCH is sent when that fetch succeeded, and also, whatever it
returned, when an earlier target names the zone: a failed fetch skips only the names of the
zone's first target, and later targets use what it stored before failing. -/
theorem updateECH_sends_every_update (api : CloudflareAPI) (before after : List Target)
    (configList : String) {r first : Target} {name : String} {v : IdData} (named : name ∈ r.names)
    (isFirst : (before ++ [r]).find? (·.zone = r.zone) = some first)
    (ok : (api.getZoneData first.token r.zone).2 = none ∨ ∃ r' ∈ before, r'.zone = r.zone)
    (found : (api.getZoneData first.token r.zone).1.reverse.lookup name = some v)
    (changed : updatedValue configList v.data.value ≠ v.data.value) :
    (v.zoneID, v.recordID, { v.data with value := updatedValue configList v.data.value }) ∈
      (updateECH api (before ++ r :: after) configList).patches := by
  have fetched := foldl_fetched api configList before (fetched_nil api)
  obtain ⟨rest, grown⟩ := foldl_updateTarget_grows api configList after
    ((before.foldl (·.updateTarget api configList) (⟨[], [], [], []⟩ : ECHRun)).updateTarget api
      configList r)
  rw [updateECH, List.foldl_append, List.foldl_cons, grown]
  exact List.mem_append_left _ (updateTarget_sends api configList fetched (by simpa using isFirst)
    named (by simpa using ok) found changed)

/-- A zone whose fetch fails after its first page. -/
def partialFetch : CloudflareAPI where
  getZoneData _ _ := ([("example.com", ⟨"zone1", "record1", ⟨1, ".", "alpn=h2"⟩⟩)],
    some "500: internal error")
  updateRecord _ _ _ _ := none

/-- A second target of the zone of `exampleTarget`, with another token. -/
def secondTarget : Target := ⟨"token2", "example.com", ["example.com"]⟩

theorem updateECH_sends_every_update_partialFetch :
    "example.com" ∈ secondTarget.names ∧
      ([exampleTarget] ++ [secondTarget]).find? (·.zone = secondTarget.zone) = some exampleTarget ∧
      (∃ r' ∈ [exampleTarget], r'.zone = secondTarget.zone) ∧
      (partialFetch.getZoneData exampleTarget.token secondTarget.zone).1.reverse.lookup
        "example.com" = some ⟨"zone1", "record1", ⟨1, ".", "alpn=h2"⟩⟩ ∧
      updatedValue "AEX" "alpn=h2" ≠ "alpn=h2" ∧
      ("zone1", "record1", ⟨1, ".", updatedValue "AEX" "alpn=h2"⟩) ∈
        (updateECH partialFetch ([exampleTarget] ++ [secondTarget]) "AEX").patches :=
  have named : "example.com" ∈ secondTarget.names := List.mem_singleton_self _
  have isFirst : ([exampleTarget] ++ [secondTarget]).find? (·.zone = secondTarget.zone) =
      some exampleTarget := rfl
  have earlier : ∃ r' ∈ [exampleTarget], r'.zone = secondTarget.zone :=
    ⟨exampleTarget, List.mem_singleton_self _, rfl⟩
  have found : (partialFetch.getZoneData exampleTarget.token secondTarget.zone).1.reverse.lookup
      "example.com" = some ⟨"zone1", "record1", ⟨1, ".", "alpn=h2"⟩⟩ := rfl
  have changed : updatedValue "AEX" "alpn=h2" ≠ "alpn=h2" := by decide
  ⟨named, isFirst, earlier, found, changed,
    updateECH_sends_every_update _ _ [] _ named isFirst (.inr earlier) found changed⟩

end TlsProxy.Cloudflare
