import TlsProxy.CheckedConfig

/-!
# Unique routing of server names and ALPN protocols

The server-name loop of `Check` builds `beKeys`, the set of (server name, ALPN protocol)
pairs seen so far, and `serverNames`, the set of server names seen so far.  A pair seen
twice is rejected, and a backend whose ALPN list is empty is rejected when one of its
names was seen before.  So in a checked configuration no pair is offered twice, and of
two backends sharing a server name the later one has a non-empty ALPN list.  Nothing
rejects the other order: a backend with an empty ALPN list followed by a backend with
the same name and some protocol passes, and whether a configuration passes depends on
the order of its backends.
-/

namespace TlsProxy

variable {env : Platform}

/-- The (server name, ALPN protocol) pairs a backend offers. -/
def Backend.offers (be : Backend) : List (String × String) :=
  be.serverNames.flatMap fun sn => (be.alpnProtos.getD []).map (sn, ·)

/-- The names recorded in the `serverNames` map. -/
def NameTables.names (tables : NameTables) : List String :=
  tables.serverNames.map Prod.fst

theorem registerKeys_eq_ok {field sn : String} :
    ∀ {protos : List String} {keys keys' : List (String × String)},
      registerKeys env field sn protos keys = .ok keys' →
        keys' = keys ++ protos.map (sn, ·) ∧ (keys.Nodup → keys'.Nodup)
  | [], _, _, registered => by
    simp only [registerKeys, Except.ok.injEq] at registered
    simp [registered]
  | proto :: protos, keys, _, registered => by
    simp only [registerKeys] at registered
    split at registered
    · simp at registered
    · obtain ⟨rfl, nodup⟩ := registerKeys_eq_ok registered
      refine ⟨by simp, fun keysNodup => nodup ?_⟩
      exact keysNodup.append (List.nodup_singleton _) (List.disjoint_singleton.mpr ‹_›)

theorem recordServerName_eq_ok {field sn : String} {be : Backend} {alpnProtos : List String}
    {serverNames serverNames' : List (String × Backend)}
    (recorded : recordServerName env field sn be alpnProtos serverNames = .ok serverNames') :
    (sn ∈ serverNames.map Prod.fst → alpnProtos ≠ [] ∧ serverNames' = serverNames) ∧
      (sn ∉ serverNames.map Prod.fst → serverNames' = serverNames ++ [(sn, be)]) := by
  unfold recordServerName at recorded
  have fresh : serverNames.lookup sn = none ↔ sn ∉ serverNames.map Prod.fst := by
    simp only [List.lookup_eq_none_iff, bne_iff_ne, ne_eq, List.mem_map, Prod.exists,
      exists_and_right, exists_eq_right, not_exists]
    exact ⟨fun absent b member => absent _ member rfl, fun absent p member same =>
      absent p.2 (by rw [same]; exact member)⟩
  split at recorded
  · simp only [Except.ok.injEq] at recorded
    exact ⟨fun seen => absurd seen (fresh.mp ‹_›), fun _ => recorded.symm⟩
  · split at recorded
    · simp at recorded
    · simp only [Except.ok.injEq] at recorded
      exact ⟨fun _ => ⟨‹_›, recorded.symm⟩, fun unseen => absurd (fresh.mpr unseen) ‹_›⟩

/-- One server name: it is normalized, it was new or its backend has an ALPN list, it is
recorded, and its pairs are added to `beKeys`. -/
theorem registerServerName_eq_ok {be : Backend} {i j : Nat} {sn sn' : String}
    {tables tables' : NameTables}
    (registered : registerServerName env be i j sn tables = .ok (sn', tables')) :
    sn' = env.idnaToASCII sn ∧ (sn' ∈ tables.names → be.alpnProtos.getD [] ≠ []) ∧
      (∀ name ∈ tables.names, name ∈ tables'.names) ∧ sn' ∈ tables'.names ∧
      tables'.beKeys = tables.beKeys ++ (be.alpnProtos.getD []).map (sn', ·) ∧
      (tables.beKeys.Nodup → tables'.beKeys.Nodup) := by
  simp only [registerServerName, except_bind_eq_ok, except_pure_eq_ok, Prod.mk.injEq] at registered
  obtain ⟨serverNames, recorded, keys, keysEq, rfl, rfl⟩ := registered
  obtain ⟨seen, unseen⟩ := recordServerName_eq_ok recorded
  obtain ⟨keysEq, nodup⟩ := registerKeys_eq_ok keysEq
  refine ⟨rfl, fun member => (seen member).1, fun name member => ?_, ?_, keysEq, nodup⟩ <;>
    by_cases known : env.idnaToASCII sn ∈ tables.serverNames.map Prod.fst <;>
    simp_all [NameTables.names]

/-- The server names of one backend: each one already recorded before the loop belongs
to a backend with an ALPN list; the loop records them all and adds their pairs. -/
theorem registerServerName_loop_eq_ok {be : Backend} {i : Nat} :
    ∀ {j : Nat} {names names' : List String} {tables tables' : NameTables},
      rangeLoop (registerServerName env be i) j names tables = .ok (names', tables') →
        (∀ sn ∈ names', sn ∈ tables.names → be.alpnProtos.getD [] ≠ []) ∧
        (∀ name ∈ tables.names, name ∈ tables'.names) ∧ (∀ sn ∈ names', sn ∈ tables'.names) ∧
        tables'.beKeys = tables.beKeys ++
          names'.flatMap (fun sn => (be.alpnProtos.getD []).map (sn, ·)) ∧
        (tables.beKeys.Nodup → tables'.beKeys.Nodup)
  | _, [], _, _, _, loop => by
    simp only [rangeLoop, Except.ok.injEq, Prod.mk.injEq] at loop
    obtain ⟨rfl, rfl⟩ := loop
    simp
  | _, _ :: _, _, _, _, loop => by
    obtain ⟨_, _, _, first, rest, rfl⟩ := rangeLoop_cons_eq_ok.mp loop
    obtain ⟨-, seen, grows, recorded, keys, nodup⟩ := registerServerName_eq_ok first
    obtain ⟨seen', grows', recorded', keys', nodup'⟩ := registerServerName_loop_eq_ok rest
    refine ⟨?_, fun name member => grows' name (grows name member), ?_, by simp [keys', keys],
      fun keysNodup => nodup' (nodup keysNodup)⟩
    · simp only [List.mem_cons, forall_eq_or_imp]
      exact ⟨seen, fun sn member old => seen' sn member (grows sn old)⟩
    · simp only [List.mem_cons, forall_eq_or_imp]
      exact ⟨grows' _ recorded, recorded'⟩

theorem registerServerNames_eq_ok {i : Nat} {be be' : Backend} {tables tables' : NameTables}
    (registered : registerServerNames env i be tables = .ok (be', tables')) :
    rangeLoop (registerServerName env be i) 0 be.serverNames tables =
      .ok (be'.serverNames, tables') ∧ be'.alpnProtos = be.alpnProtos := by
  simp only [registerServerNames, except_bind_eq_ok] at registered
  obtain ⟨⟨names, _⟩, loop, registered⟩ := registered
  simp only [except_pure_eq_ok, Prod.mk.injEq] at registered
  obtain ⟨rfl, rfl⟩ := registered
  exact ⟨loop, rfl⟩

/-- The server-name loop over the backends: a name already recorded is only repeated by
a backend with an ALPN list, of two backends sharing a name the later one has an ALPN
list, and `beKeys` collects every backend's pairs, never one twice. -/
theorem registerServerNames_loop_eq_ok :
    ∀ {i : Nat} {bes bes' : List Backend} {tables tables' : NameTables},
      rangeLoop (registerServerNames env) i bes tables = .ok (bes', tables') →
        (∀ be ∈ bes', ∀ sn ∈ be.serverNames, sn ∈ tables.names →
          be.alpnProtos.getD [] ≠ []) ∧
        bes'.Pairwise (fun earlier later => ∀ sn ∈ later.serverNames,
          sn ∈ earlier.serverNames → later.alpnProtos.getD [] ≠ []) ∧
        (∀ name ∈ tables.names, name ∈ tables'.names) ∧
        tables'.beKeys = tables.beKeys ++ bes'.flatMap Backend.offers ∧
        (tables.beKeys.Nodup → tables'.beKeys.Nodup)
  | _, [], _, _, _, loop => by
    simp only [rangeLoop, Except.ok.injEq, Prod.mk.injEq] at loop
    obtain ⟨rfl, rfl⟩ := loop
    simp
  | _, _ :: _, _, _, _, loop => by
    obtain ⟨be', middle, _, first, rest, rfl⟩ := rangeLoop_cons_eq_ok.mp loop
    obtain ⟨names, alpnProtos⟩ := registerServerNames_eq_ok first
    obtain ⟨seen, grows, recorded, keys, nodup⟩ := registerServerName_loop_eq_ok names
    obtain ⟨seen', later, grows', keys', nodup'⟩ := registerServerNames_loop_eq_ok rest
    rw [← alpnProtos] at seen keys
    refine ⟨?_, List.pairwise_cons.mpr ⟨fun be member sn named shared =>
        seen' be member sn named (recorded sn shared), later⟩,
      fun name member => grows' name (grows name member), ?_,
      fun keysNodup => nodup' (nodup keysNodup)⟩
    · simp only [List.mem_cons, forall_eq_or_imp]
      exact ⟨seen, fun be member sn named old => seen' be member sn named (grows sn old)⟩
    · rw [keys', keys]
      simp [Backend.offers]

theorem offers_eq_of_checked {limits names : List String} :
    ∀ {bes bes' : List Backend}, List.Forall₂ (BackendChecked env limits names) bes bes' →
      bes'.flatMap Backend.offers = bes.flatMap Backend.offers
  | _, _, .nil => rfl
  | _, _, .cons first rest => by
    simp [Backend.offers, first.serverNames_eq, first.alpnProtos_eq, offers_eq_of_checked rest]

/-- No (server name, ALPN protocol) pair is offered twice in a checked configuration, by
two backends or by one. -/
theorem check_ok_offers_nodup {cfg cfg' : Config} (checked : cfg.check env = .ok cfg') :
    (cfg'.backends.flatMap Backend.offers).Nodup := by
  obtain ⟨trace⟩ := check_eq_ok checked
  obtain ⟨-, -, -, keys, nodup⟩ := registerServerNames_loop_eq_ok trace.name_loop
  have finished := rangeMap_forall₂ (R := BackendChecked env trace.limits trace.names)
    (fun _ _ _ body => checkBackend_checked body) trace.backend_loop
  rw [offers_eq_of_checked finished]
  simpa [keys] using nodup List.nodup_nil

theorem check_ok_offers_nodup_exampleConfig :
    exampleConfig.check examplePlatform = .ok exampleChecked ∧
      (exampleChecked.backends.flatMap Backend.offers).Nodup := by
  have checked : exampleConfig.check examplePlatform = .ok exampleChecked := rfl
  exact ⟨checked, check_ok_offers_nodup checked⟩

/-- Of two backends of a checked configuration that share a server name, the later one
has a non-empty ALPN list. -/
theorem check_ok_shared_name_later_alpn {cfg cfg' : Config} (checked : cfg.check env = .ok cfg') :
    cfg'.backends.Pairwise fun earlier later =>
      ∀ sn ∈ later.serverNames, sn ∈ earlier.serverNames → later.alpnProtos ≠ some [] := by
  obtain ⟨trace⟩ := check_eq_ok checked
  obtain ⟨-, later, -⟩ := registerServerNames_loop_eq_ok trace.name_loop
  have finished := rangeMap_forall₂ (R := BackendChecked env trace.limits trace.names)
    (fun _ _ _ body => checkBackend_checked body) trace.backend_loop
  refine forall₂_pairwise (fun _ _ _ _ earlier' later' shared sn named named' empty => ?_)
    finished later
  rw [later'.serverNames_eq] at named
  rw [earlier'.serverNames_eq] at named'
  exact shared sn named named' (by simp [← later'.alpnProtos_eq, empty])

theorem check_ok_shared_name_later_alpn_exampleConfig :
    exampleConfig.check examplePlatform = .ok exampleChecked ∧
      exampleChecked.backends.Pairwise fun earlier later =>
        ∀ sn ∈ later.serverNames, sn ∈ earlier.serverNames → later.alpnProtos ≠ some [] := by
  have checked : exampleConfig.check examplePlatform = .ok exampleChecked := rfl
  exact ⟨checked, check_ok_shared_name_later_alpn checked⟩

/-- A TCP backend for `x.example.com` offering the ALPN protocols `alpnProtos`. -/
def routedBackend (alpnProtos : List String) : Backend :=
  { exampleBackend with serverNames := ["x.example.com"], alpnProtos := some alpnProtos }

/-- A backend with an empty ALPN list, then one for the same name offering `h2`. -/
def emptyALPNFirst : Config :=
  { exampleConfig with backends := [routedBackend [], routedBackend ["h2"]] }

/-- The same two backends in the other order. -/
def emptyALPNLast : Config :=
  { exampleConfig with backends := [routedBackend ["h2"], routedBackend []] }

/-- `Check` accepts `emptyALPNFirst`: its first backend keeps an empty ALPN list and
shares its server name with the second. -/
theorem check_accepts_empty_alpn_shared_name :
    ((emptyALPNFirst.check examplePlatform).toOption.map fun cfg =>
      cfg.backends.map fun be => (be.serverNames, be.alpnProtos)) =
      some [(["x.example.com"], some []), (["x.example.com"], some ["h2"])] := by
  decide

/-- Reordering the two backends of `emptyALPNFirst`, and nothing else, turns acceptance
into rejection. -/
theorem check_depends_on_backend_order :
    emptyALPNLast = { emptyALPNFirst with backends := emptyALPNLast.backends } ∧
      emptyALPNLast.backends.Perm emptyALPNFirst.backends ∧
      (emptyALPNFirst.check examplePlatform).toBool = true ∧
      emptyALPNLast.check examplePlatform =
        .error "backend[1].ServerNames: duplicate server name \"x.example.com\"" :=
  ⟨rfl, List.Perm.swap _ _ _, by decide, rfl⟩

end TlsProxy
