import TlsProxy.ConfigTypes

/-!
# Parsing `ProxyProtocolVersion`

`validateProxyProtoVersion` accepts `""` and otherwise a `v` followed by what
`strconv.ParseInt(s[1:], 10, 8)` accepts, then keeps the low byte of the result.  The
base-10 paths of `strconv.ParseUint` and `strconv.ParseInt` are written out here with
their early returns, so that the set of accepted strings and the value returned for
each is the library's.
-/

namespace TlsProxy

/-- `strconv.ErrSyntax` and `strconv.ErrRange`. -/
inductive NumErrorKind
  | invalid
  | outOfRange
  deriving DecidableEq, Repr

/-- `*strconv.NumError`: the function, its input and the cause. -/
structure NumError where
  func : String
  num : String
  err : NumErrorKind
  deriving DecidableEq, Repr

/-- `(*NumError).Error()`. -/
def NumError.error (quote : String → String) (e : NumError) : String :=
  "strconv." ++ e.func ++ ": parsing " ++ quote e.num ++ ": " ++
    match e.err with
    | .invalid => "invalid syntax"
    | .outOfRange => "value out of range"

/-- `maxUint64/10 + 1`: the smallest `n` for which `n * 10` overflows a `uint64`. -/
def cutoff10 : Nat := ((1 <<< 64) - 1) / 10 + 1

/-- The digit loop of `strconv.ParseUint(s, 10, bitSize)` from the partial value `n`.
It returns the value, or `maxVal` with the error kind at the first bad digit or at the
first overflow past `maxVal`, as the library does. -/
def parseUintDigits (maxVal : Nat) : Nat → List Char → Nat × Option NumErrorKind
  | n, [] => (n, none)
  | n, c :: cs =>
    if '0' ≤ c ∧ c ≤ '9' then
      if cutoff10 ≤ n then (maxVal, some .outOfRange)
      else
        let n1 := n * 10 + (c.toNat - '0'.toNat)
        if maxVal < n1 then (maxVal, some .outOfRange) else parseUintDigits maxVal n1 cs
    else (0, some .invalid)

/-- `strconv.ParseUint(s, 10, bitSize)`, with the error kind in place of the error. -/
def parseUint (bitSize : Nat) : List Char → Nat × Option NumErrorKind
  | [] => (0, some .invalid)
  | cs => parseUintDigits ((1 <<< bitSize) - 1) 0 cs

/-- `strconv.ParseInt(s, 10, bitSize)` for `0 < bitSize ≤ 64`. -/
def parseInt (bitSize : Nat) (s : String) : Except NumError Int :=
  match s.toList with
  | [] => .error ⟨"ParseInt", s, .invalid⟩
  | c :: rest =>
    let (neg, digits) :=
      if c = '+' then (false, rest) else if c = '-' then (true, rest) else (false, c :: rest)
    match parseUint bitSize digits with
    | (_, some .invalid) => .error ⟨"ParseInt", s, .invalid⟩
    | (un, _) =>
      let cutoff := 1 <<< (bitSize - 1)
      if !neg ∧ cutoff ≤ un then .error ⟨"ParseInt", s, .outOfRange⟩
      else if neg ∧ cutoff < un then .error ⟨"ParseInt", s, .outOfRange⟩
      else .ok (if neg then -(un : Int) else un)

/-- Go's conversion `byte(v)` of an `int64`: the value modulo 256. -/
def toByte (v : Int) : UInt8 :=
  UInt8.ofNat (v % 256).toNat

/-- `validateProxyProtoVersion`; `quote` is `%q`. -/
def validateProxyProtoVersion (quote : String → String) (s : String) : Except String UInt8 :=
  if s = "" then .ok 0
  else
    match s.toList with
    | 'v' :: rest@(_ :: _) =>
      match parseInt 8 (String.mk rest) with
      | .error e => .error (e.error quote)
      | .ok v => .ok (toByte v)
    | _ => .error ("invalid value " ++ quote s ++ ", expected v1 or v2")

/-! ### The accepted strings

Below the overflow cutoff the digit loop computes the value of the digits, so
`ParseInt(s, 10, 8)` accepts exactly the literals of an `int8`: an optional sign and at
least one decimal digit, with leading zeros allowed. -/

/-- The value of the decimal digits `cs` read after the partial value `n`. -/
def decimalValue (n : Nat) (cs : List Char) : Nat :=
  cs.foldl (fun n c => n * 10 + (c.toNat - '0'.toNat)) n

@[simp] theorem decimalValue_nil (n : Nat) : decimalValue n [] = n := rfl

@[simp] theorem decimalValue_cons (n : Nat) (c : Char) (cs : List Char) :
    decimalValue n (c :: cs) = decimalValue (n * 10 + (c.toNat - '0'.toNat)) cs := rfl

theorem le_decimalValue : ∀ (n : Nat) (cs : List Char), n ≤ decimalValue n cs
  | _, [] => Nat.le_refl _
  | n, c :: cs => Nat.le_trans (by omega) (le_decimalValue (n * 10 + (c.toNat - '0'.toNat)) cs)

section DigitLoop

variable {maxVal : Nat}

/-- Below the overflow cutoff, the digit loop returns the value of the digits when they are
all decimal digits and the value fits `maxVal`. -/
theorem parseUintDigits_eq_none (small : maxVal < cutoff10) :
    ∀ {n : Nat} {cs : List Char} {u : Nat}, n ≤ maxVal →
      (parseUintDigits maxVal n cs = (u, none) ↔
        (∀ c ∈ cs, '0' ≤ c ∧ c ≤ '9') ∧ decimalValue n cs ≤ maxVal ∧ u = decimalValue n cs)
  | n, [], u, fits => by simp [parseUintDigits, fits, eq_comm]
  | n, c :: cs, u, fits => by
    simp only [parseUintDigits, List.forall_mem_cons, decimalValue_cons]
    by_cases digit : '0' ≤ c ∧ c ≤ '9'
    · have : ¬cutoff10 ≤ n := by omega
      by_cases over : maxVal < n * 10 + (c.toNat - '0'.toNat)
      · have grows := le_decimalValue (n * 10 + (c.toNat - '0'.toNat)) cs
        simp only [digit, this, over, if_true, if_false, true_and, Prod.mk.injEq, reduceCtorEq,
          and_false, false_iff, not_and]
        exact fun _ bounded => absurd (Nat.lt_of_lt_of_le over grows) (Nat.not_lt.mpr bounded)
      · simp only [digit, this, over, if_true, if_false, true_and]
        exact parseUintDigits_eq_none small (by omega)
    · simp [digit]

/-- A range error of the digit loop returns `maxVal`. -/
theorem parseUintDigits_outOfRange : ∀ {n : Nat} {cs : List Char} {u : Nat},
    parseUintDigits maxVal n cs = (u, some .outOfRange) → u = maxVal
  | n, [], u, loop => by simp [parseUintDigits] at loop
  | n, c :: cs, u, loop => by
    simp only [parseUintDigits] at loop
    split_ifs at loop <;> first
      | exact (Prod.mk.inj loop).1.symm
      | exact parseUintDigits_outOfRange loop
      | simp at loop

end DigitLoop

/-- Decimal digits, at least one. -/
def DecimalDigits (cs : List Char) : Prop :=
  cs ≠ [] ∧ ∀ c ∈ cs, '0' ≤ c ∧ c ≤ '9'

/-- The base-10 literals `strconv.ParseInt(s, 10, 8)` accepts, with the value of each:
decimal digits after an optional sign, the value in the range of an `int8`. -/
inductive Int8Literal : List Char → Int → Prop
  | unsigned {ds : List Char} : DecimalDigits ds → decimalValue 0 ds < 128 →
      Int8Literal ds (decimalValue 0 ds)
  | plus {ds : List Char} : DecimalDigits ds → decimalValue 0 ds < 128 →
      Int8Literal ('+' :: ds) (decimalValue 0 ds)
  | minus {ds : List Char} : DecimalDigits ds → decimalValue 0 ds ≤ 128 →
      Int8Literal ('-' :: ds) (-(decimalValue 0 ds : Int))

theorem parseUint_eq_none {cs : List Char} {u : Nat} :
    parseUint 8 cs = (u, none) ↔
      DecimalDigits cs ∧ decimalValue 0 cs ≤ 255 ∧ u = decimalValue 0 cs := by
  cases cs with
  | nil => simp [parseUint, DecimalDigits]
  | cons c cs =>
    simpa [DecimalDigits, and_assoc] using
      @parseUintDigits_eq_none 255 (by decide) 0 (c :: cs) u (Nat.zero_le _)

theorem parseUint_outOfRange {cs : List Char} {u : Nat} :
    parseUint 8 cs = (u, some .outOfRange) → u = 255 := by
  cases cs with
  | nil => simp [parseUint]
  | cons c cs => exact parseUintDigits_outOfRange

theorem DecimalDigits.ne_sign {c : Char} {cs : List Char} (digits : DecimalDigits (c :: cs)) :
    c ≠ '+' ∧ c ≠ '-' := by
  have := digits.2 c (List.mem_cons_self _ _)
  constructor <;> rintro rfl <;> simp at this

/-- What `ParseInt` accepts is a literal of an `int8`, and the value is the literal's. -/
theorem int8Literal_of_parseInt {l : List Char} {s : String} {v : Int}
    (parsedOk : parseInt 8 s = .ok v) (chars : s.toList = l) : Int8Literal l v := by
  unfold parseInt at parsedOk
  rw [chars] at parsedOk
  rcases l with _ | ⟨c, rest⟩
  · simp at parsedOk
  have sign : c = '+' ∨ c = '-' ∨ c ≠ '+' ∧ c ≠ '-' := by tauto
  rcases sign with rfl | rfl | ⟨plus, minus⟩
  · rcases parsed : parseUint 8 rest with ⟨un, _ | _ | _⟩ <;> simp [parsed] at parsedOk
    · obtain ⟨digits, -, rfl⟩ := parseUint_eq_none.mp parsed
      split_ifs at parsedOk
      cases parsedOk
      exact .plus digits (by omega)
    · simp [parseUint_outOfRange parsed] at parsedOk
  · rcases parsed : parseUint 8 rest with ⟨un, _ | _ | _⟩ <;> simp [parsed] at parsedOk
    · obtain ⟨digits, -, rfl⟩ := parseUint_eq_none.mp parsed
      split_ifs at parsedOk
      cases parsedOk
      exact .minus digits (by omega)
    · simp [parseUint_outOfRange parsed] at parsedOk
  · rcases parsed : parseUint 8 (c :: rest) with ⟨un, _ | _ | _⟩ <;>
      simp [parsed, plus, minus] at parsedOk
    · obtain ⟨digits, -, rfl⟩ := parseUint_eq_none.mp parsed
      split_ifs at parsedOk
      cases parsedOk
      exact .unsigned digits (by omega)
    · simp [parseUint_outOfRange parsed] at parsedOk

/-- `ParseInt` accepts every literal of an `int8` with its value. -/
theorem parseInt_of_int8Literal {l : List Char} {v : Int} (literal : Int8Literal l v) {s : String}
    (chars : s.toList = l) : parseInt 8 s = .ok v := by
  unfold parseInt
  rw [chars]
  cases literal with
  | unsigned digits small =>
    obtain ⟨c, rest, rfl⟩ := List.exists_cons_of_ne_nil digits.1
    simp [digits.ne_sign, parseUint_eq_none.mpr ⟨digits, by omega, rfl⟩, Nat.not_le.mpr small,
      -decimalValue_cons]
  | plus digits small => simp [parseUint_eq_none.mpr ⟨digits, by omega, rfl⟩, Nat.not_le.mpr small]
  | minus digits small => simp [parseUint_eq_none.mpr ⟨digits, by omega, rfl⟩, Nat.not_lt.mpr small]

theorem parseInt_eq_ok {s : String} {v : Int} : parseInt 8 s = .ok v ↔ Int8Literal s.toList v :=
  ⟨fun parsed => int8Literal_of_parseInt parsed rfl,
    fun literal => parseInt_of_int8Literal literal rfl⟩

theorem Int8Literal.ne_nil {l : List Char} {v : Int} : Int8Literal l v → l ≠ []
  | .unsigned digits _ => digits.1
  | .plus _ _ | .minus _ _ => List.cons_ne_nil _ _

/-- The strings `validateProxyProtoVersion` accepts, with the byte it returns: the empty
string, read as 0, and a `v` followed by a literal of an `int8`, read as the low byte of its
value. -/
def ProxyProtocolLiteral (s : String) (b : UInt8) : Prop :=
  s = "" ∧ b = 0 ∨ ∃ lit v, s.toList = 'v' :: lit ∧ Int8Literal lit v ∧ b = toByte v

theorem validateProxyProtoVersion_eq_ok {quote : String → String} {s : String} {b : UInt8} :
    validateProxyProtoVersion quote s = .ok b ↔ ProxyProtocolLiteral s b := by
  unfold validateProxyProtoVersion ProxyProtocolLiteral
  by_cases empty : s = ""
  · subst empty
    simp [eq_comm]
  simp only [empty, if_false, false_and, false_or]
  rcases chars : s.toList with _ | ⟨c, rest⟩
  · simp
  by_cases isV : c = 'v'
  · subst isV
    rcases rest with _ | ⟨d, rest⟩
    · simpa using fun v (literal : Int8Literal [] v) => absurd rfl literal.ne_nil
    · have literal (v : Int) :
          Int8Literal (d :: rest) v ↔ parseInt 8 (String.mk (d :: rest)) = .ok v :=
        parseInt_eq_ok.symm
      simp only [List.cons.injEq, true_and, exists_and_left, exists_eq_left', literal]
      cases parseInt 8 (String.mk (d :: rest)) <;> simp [eq_comm]
  · simp [isV]

end TlsProxy
