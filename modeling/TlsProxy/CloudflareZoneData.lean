import TlsProxy.CloudflareECH

/-!
# Reading a zone's HTTPS records

`getZoneData` looks the zone up by name and takes the first zone found.  It then reads the
zone's HTTPS records, twenty to a page from page 1, and stores each one into `data`, until a
page comes back empty or its `result_info` says that the records are all read.  An
unsuccessful response ends the call with `errors.Join` of the errors the response lists.

The loop keeps no bound of its own: its stop test reads the page number the server puts in
`result_info`, not the loop's counter.  Against a server that answers with the page it was
asked for, the loop ends after as many requests as there are pages; against one that keeps
answering with its first page, it never ends.

`updateRecord` sends one PATCH and returns its error.  Together with `getZoneData` it makes
the `CloudflareAPI` that `UpdateECH` calls (`ZoneClient.api`), so what was proved of
`UpdateECH` for any API answers holds of this client.

The responses are the HTTP client's after JSON decoding, an error standing for a failed
request or a body that does not decode.  The integers of `result_info` are Go `int`s, 64 bits
wide, so they are `BitVec 64` here: `Page*PerPage` wraps around as Go's product does, and the
stop test compares it with `Count` as signed integers.  So a `result_info` whose product
overflows can end the loop early or keep it going.  The loop's own counter is a `Nat`; Go's
would wrap only after 2^63 requests.
-/

namespace TlsProxy.Cloudflare

/-- `cfError`. -/
structure CFError where
  code : Int
  message : String
  deriving DecidableEq, Repr

/-- `(cfError).Error()`: `fmt.Sprintf("%d: %s", e.Code, e.Message)`. -/
def CFError.error (e : CFError) : String :=
  toString e.code ++ ": " ++ e.message

/-- `cfErrors.Join()`: `errors.Join` of the errors, which is `nil` when there are none and
otherwise reads as their texts, one per line. -/
def cfErrorsJoin (errs : List CFError) : Option String :=
  if errs = [] then none else some ("\n".intercalate (errs.map CFError.error))

/-- The body of `GET /client/v4/zones?name=<zone>`: the `id` and `name` of each zone
found. -/
structure ZonesResponse where
  success : Bool
  errors : List CFError
  result : List (String × String)

/-- The body of `GET /client/v4/zones/<id>/dns_records?type=HTTPS&per_page=20&page=<page>`:
the `id`, `name` and `data` of each record, and the `count`, `page` and `per_page` of
`result_info`, Go `int`s. -/
structure RecordsResponse where
  success : Bool
  errors : List CFError
  result : List (String × String × HTTPSData)
  count : BitVec 64
  page : BitVec 64
  perPage : BitVec 64

/-- The body of the response to `PATCH /client/v4/zones/<zoneID>/dns_records/<recordID>`. -/
structure PatchResponse where
  success : Bool
  errors : List CFError

/-- The two GET requests of `getZoneData` and the PATCH request of `updateRecord`, sent with
the API token: the decoded body, or the error of `client.Do` or of `json.Unmarshal`. -/
structure ZoneClient where
  zones : (token zone : String) → Except String ZonesResponse
  records : (token zoneID : String) → (page : Nat) → Except String RecordsResponse
  patch : (token zoneID recordID : String) → HTTPSData → Except String PatchResponse

/-- The loop `for page := 1; ; page++` of `getZoneData`, from `page` with `fuel` passes left:
the records it stores into `data`, in order, and the error the call returns, `some none`
for `nil` (its `break` included); the second component is `none` when the fuel runs out. -/
def recordPages (client : ZoneClient) (token zoneID : String) :
    Nat → Nat → List (String × IdData) × Option (Option String)
  | 0, _ => ([], none)
  | fuel + 1, page =>
    match client.records token zoneID page with
    | .error err => ([], some (some err))
    | .ok result =>
      if result.success = false then ([], some (cfErrorsJoin result.errors))
      else
        let stored := result.result.map fun (id, name, data) => (name, ⟨zoneID, id, data⟩)
        if result.result = [] ∨ result.count.sle (result.page * result.perPage) then
          (stored, some none)
        else
          let rest := recordPages client token zoneID fuel (page + 1)
          (stored ++ rest.1, rest.2)

/-- `getZoneData(ctx, client, token, zone, data)` with `fuel` passes of its loop: the records
it stores, in order, and its error. -/
def getZoneData (client : ZoneClient) (fuel : Nat) (token zone : String) :
    List (String × IdData) × Option (Option String) :=
  match client.zones token zone with
  | .error err => ([], some (some err))
  | .ok result =>
    match result.success, result.result with
    | true, (zoneID, _) :: _ => recordPages client token zoneID fuel 1
    | _, _ => ([], some (cfErrorsJoin result.errors))

/-- `updateRecord(ctx, client, token, zoneID, recordID, data)`: its error, if any. -/
def updateRecord (client : ZoneClient) (token zoneID recordID : String) (data : HTTPSData) :
    Option String :=
  match client.patch token zoneID recordID data with
  | .error err => some err
  | .ok result => if result.success = false then cfErrorsJoin result.errors else none

/-- `math.MaxInt`: the largest Go `int`. -/
def maxInt : Int := 9223372036854775807

/-- The server's `result_info` is honest for the zone's records: every successful page gives
the page asked for, `perPage` records a page and `count` records in all. -/
def ZoneClient.Paged (client : ZoneClient) (token zoneID : String) (count perPage : BitVec 64) :
    Prop :=
  ∀ p result, client.records token zoneID p = .ok result → result.success = true →
    result.count = count ∧ result.page = BitVec.ofNat 64 p ∧ result.perPage = perPage

/-- The answer for `page` lets the loop go on: it is successful, lists records, and its
`result_info` says that more follow, by Go's wrapping product. -/
def ZoneClient.Continues (client : ZoneClient) (token zoneID : String) (page : Nat) : Prop :=
  ∃ result, client.records token zoneID page = .ok result ∧ result.success = true ∧
    ¬(result.result = [] ∨ result.count.sle (result.page * result.perPage))

/-- The loop started at `page` with `fuel` passes reads page `p`: `p` is one of the first `fuel`
pages from `page`, and the answer for each page before it lets the loop go on. -/
def ZoneClient.Reaches (client : ZoneClient) (token zoneID : String) (fuel page p : Nat) : Prop :=
  page ≤ p ∧ p < page + fuel ∧ ∀ q, page ≤ q → q < p → client.Continues token zoneID q

/-- A successful answer for page `p` lists the record `id` under `name` with `data`. -/
def ZoneClient.Lists (client : ZoneClient) (token zoneID : String) (p : Nat) (id name : String)
    (data : HTTPSData) : Prop :=
  ∃ result, client.records token zoneID p = .ok result ∧ result.success = true ∧
    (id, name, data) ∈ result.result

section Pages

variable {client : ZoneClient} {token zoneID : String}

theorem reaches_zero {page p : Nat} : ¬client.Reaches token zoneID 0 page p :=
  fun ⟨lo, hi, _⟩ => by omega

/-- A pass from `page` reads `page` itself, and goes on to the pages after it when the answer
for `page` lets it. -/
theorem reaches_succ_iff {fuel page p : Nat} :
    client.Reaches token zoneID (fuel + 1) page p ↔ p = page ∨
      client.Continues token zoneID page ∧ client.Reaches token zoneID fuel (page + 1) p := by
  constructor
  · rintro ⟨lo, hi, before⟩
    rcases Nat.eq_or_lt_of_le lo with rfl | later
    · exact .inl rfl
    · exact .inr ⟨before page le_rfl later, by omega, by omega,
        fun q lo _ => before q (by omega) ‹_›⟩
  · rintro (rfl | ⟨here, lo, hi, before⟩)
    · exact ⟨le_rfl, by omega, fun q lo hi => absurd hi (by omega)⟩
    · refine ⟨by omega, by omega, fun q lo' hi' => ?_⟩
      rcases Nat.eq_or_lt_of_le lo' with rfl | later
      exacts [here, before q later hi']

theorem mem_stored_iff {name : String} {v : IdData} {l : List (String × String × HTTPSData)} :
    (name, v) ∈ l.map (fun (id, name, data) => (name, (⟨zoneID, id, data⟩ : IdData))) ↔
      v.zoneID = zoneID ∧ (v.recordID, name, v.data) ∈ l := by
  constructor
  · intro stored
    obtain ⟨⟨id, name', data⟩, listed, same⟩ := List.mem_map.mp stored
    simp only [Prod.mk.injEq] at same
    obtain ⟨rfl, rfl⟩ := same
    exact ⟨rfl, listed⟩
  · rintro ⟨zone, listed⟩
    exact List.mem_map.mpr ⟨_, listed, by rw [← zone]⟩

/-- The loop stores exactly the records listed by successful answers for the pages it reaches,
with the zone's ID. -/
theorem recordPages_stored_iff {name : String} {v : IdData} :
    ∀ {fuel page : Nat}, (name, v) ∈ (recordPages client token zoneID fuel page).1 ↔
      v.zoneID = zoneID ∧ ∃ p, client.Reaches token zoneID fuel page p ∧
        client.Lists token zoneID p v.recordID name v.data
  | 0, page => by simp [recordPages, reaches_zero]
  | fuel + 1, page => by
    simp only [reaches_succ_iff, or_and_right, exists_or, exists_eq_left]
    unfold recordPages
    cases answer : client.records token zoneID page with
    | error err => simp [ZoneClient.Lists, ZoneClient.Continues, answer]
    | ok result =>
      have lists : ∀ {id name data}, client.Lists token zoneID page id name data ↔
          result.success = true ∧ (id, name, data) ∈ result.result := by
        simp [ZoneClient.Lists, answer]
      by_cases failed : result.success = false
      · have stop : ¬client.Continues token zoneID page := by
          simp [ZoneClient.Continues, answer, failed]
        simp [lists, stop, failed]
      · have success : result.success = true := by simpa using failed
        by_cases ended : result.result = [] ∨ result.count.sle (result.page * result.perPage)
        · have stop : ¬client.Continues token zoneID page := by
            rintro ⟨_, found, -, more⟩
            rw [answer] at found
            cases found
            exact more ended
          simp [lists, stop, success, ended, mem_stored_iff, -List.mem_map]
        · have go : client.Continues token zoneID page := ⟨result, answer, success, ended⟩
          simp [lists, go, success, ended, mem_stored_iff, recordPages_stored_iff, and_or_left,
            -List.mem_map]

/-- More fuel changes nothing once the loop has ended: the fuel is only a bound. -/
theorem recordPages_fuel_stable (more : Nat) {fuel page : Nat}
    (ended : (recordPages client token zoneID fuel page).2 ≠ none) :
    recordPages client token zoneID (fuel + more) page =
      recordPages client token zoneID fuel page := by
  induction fuel generalizing page with
  | zero => exact absurd rfl ended
  | succ fuel ih =>
    rw [Nat.add_right_comm]
    simp only [recordPages] at ended ⊢
    generalize client.records token zoneID page = answer at ended ⊢
    cases answer with
    | error => rfl
    | ok result =>
      simp only at ended ⊢
      split_ifs at ended ⊢
      · rfl
      · rfl
      · rw [ih ended]

/-- Go's product of a page number and a non-negative page size is the mathematical one while
that stays within `math.MaxInt`. -/
theorem toInt_ofNat_mul {q : Nat} {perPage : BitVec 64} (nonneg : 0 ≤ perPage.toInt)
    (fits : q * perPage.toInt ≤ maxInt) :
    (BitVec.ofNat 64 q * perPage).toInt = q * perPage.toInt := by
  have below := Int.mul_nonneg (Int.ofNat_nonneg q) nonneg
  unfold maxInt at fits
  rw [BitVec.toInt_mul, BitVec.toInt_ofNat, Int.bmod_mul_bmod, Int.bmod_def]
  simp only [Nat.reducePow]
  split <;> omega

/-- Against a server whose successful answers give the page asked for, `perPage` records a
page and `count` records in all, the loop from `page` ends within `fuel` requests as soon as
`fuel` pages from `page` on hold `count` records, while the product for the last of them does
not wrap. -/
theorem recordPages_ends {count perPage : BitVec 64}
    (honest : client.Paged token zoneID count perPage) (nonneg : 0 ≤ perPage.toInt)
    {fuel page : Nat} (positive : 0 < fuel)
    (fits : ((page : Int) + fuel - 1) * perPage.toInt ≤ maxInt)
    (enough : count.toInt ≤ ((page : Int) + fuel - 1) * perPage.toInt) :
    (recordPages client token zoneID fuel page).2 ≠ none := by
  induction fuel generalizing page with
  | zero => exact absurd positive (Nat.lt_irrefl 0)
  | succ fuel ih =>
    unfold recordPages
    split
    · simp
    · rename_i result answered
      split_ifs with failed ended
      · simp
      · simp
      · obtain ⟨counted, paged, perPaged⟩ :=
          honest page result answered (by simpa using failed)
        have within : (page : Int) * perPage.toInt ≤ ((page : Int) + (fuel + 1 : Nat) - 1) *
            perPage.toInt := Int.mul_le_mul_of_nonneg_right (by omega) nonneg
        have more : ¬count.toInt ≤ page * perPage.toInt := fun done => ended (.inr (by
          rw [counted, paged, perPaged, BitVec.sle, toInt_ofNat_mul nonneg (by omega)]
          exact decide_eq_true done))
        have later : 0 < fuel :=
          Nat.pos_of_ne_zero fun spent => more (by simpa [spent] using enough)
        have shift : ((page + 1 : Nat) : Int) + fuel - 1 = page + (fuel + 1 : Nat) - 1 := by omega
        exact ih later (shift ▸ fits) (shift ▸ enough)

/-- Against a server that answers every page with the same successful, non-empty page whose
`result_info` says, by Go's wrapping product, that more records follow, the loop never ends:
every pass stores the page again and asks for the next. -/
theorem recordPages_never_ends {first : RecordsResponse}
    (repeated : ∀ p, client.records token zoneID p = .ok first) (success : first.success = true)
    (nonempty : first.result ≠ []) (more : first.count.sle (first.page * first.perPage) = false) :
    ∀ (fuel page : Nat), (recordPages client token zoneID fuel page).2 = none
  | 0, _ => rfl
  | fuel + 1, page => by
    have notDone : ¬(first.result = [] ∨ first.count.sle (first.page * first.perPage)) := by
      rintro (empty | done)
      exacts [nonempty empty, absurd more (by simp [done])]
    simp only [recordPages, repeated, success, Bool.true_eq_false, if_false, notDone]
    exact recordPages_never_ends repeated success nonempty more fuel (page + 1)

/-- `getZoneData` stores exactly the records listed by successful answers for the pages its
loop reaches, in the zone that a successful lookup found first, with that zone's ID. -/
theorem getZoneData_stored_iff {fuel : Nat} {zone name : String} {v : IdData} :
    (name, v) ∈ (getZoneData client fuel token zone).1 ↔
      ∃ zones zoneName rest, client.zones token zone = .ok zones ∧ zones.success = true ∧
        zones.result = (v.zoneID, zoneName) :: rest ∧
        ∃ p, client.Reaches token v.zoneID fuel 1 p ∧
          client.Lists token v.zoneID p v.recordID name v.data := by
  unfold getZoneData
  cases found : client.zones token zone with
  | error err => simp
  | ok zones =>
    obtain ⟨success, errors, result⟩ := zones
    cases success <;> rcases result with _ | ⟨⟨zoneID, zoneName⟩, rest⟩ <;>
      simp only [recordPages_stored_iff] <;> simp
    constructor <;> rintro ⟨rfl, reached⟩ <;> exact ⟨rfl, reached⟩

/-- More fuel changes nothing once `getZoneData` has returned: its result is the source's
for every fuel that suffices. -/
theorem getZoneData_fuel_stable (more : Nat) {fuel : Nat} {zone : String}
    (ended : (getZoneData client fuel token zone).2 ≠ none) :
    getZoneData client (fuel + more) token zone = getZoneData client fuel token zone := by
  unfold getZoneData at ended ⊢
  generalize client.zones token zone = answer at ended ⊢
  cases answer with
  | error err => rfl
  | ok zones =>
    obtain ⟨success, errors, result⟩ := zones
    cases success <;> rcases result with _ | ⟨⟨zoneID, zoneName⟩, rest⟩
    all_goals first | rfl | exact recordPages_fuel_stable more ended

/-- `getZoneData` returns within `fuel` passes of its loop when the zone found first has an
honest `result_info` with a non-negative page size, `fuel` pages hold its `count` records, and
Go's product for page `fuel` does not wrap: `fuel * perPage` is at most `math.MaxInt`. -/
theorem getZoneData_ends {zone : String} {count perPage : BitVec 64}
    (honest : ∀ zones zoneID name rest, client.zones token zone = .ok zones →
      zones.result = (zoneID, name) :: rest → client.Paged token zoneID count perPage)
    (nonneg : 0 ≤ perPage.toInt) {fuel : Nat} (positive : 0 < fuel)
    (fits : fuel * perPage.toInt ≤ maxInt) (enough : count.toInt ≤ fuel * perPage.toInt) :
    (getZoneData client fuel token zone).2 ≠ none := by
  unfold getZoneData
  split
  · simp
  · rename_i zones found
    split
    · rename_i zoneID name rest _ listed
      have first : ((1 : Nat) : Int) + fuel - 1 = fuel := by omega
      exact recordPages_ends (honest zones zoneID name rest found listed) nonneg positive
        (by rwa [first]) (by rwa [first])
    · simp

/-- A zone whose server answers each page honestly, with `count` records twenty a page. -/
def pagedClient (count : BitVec 64) : ZoneClient where
  zones _ _ := .ok ⟨true, [], [("zone1", "example.com")]⟩
  records _ _ page :=
    .ok ⟨true, [], [("record" ++ toString page, "www.example.com", ⟨1, ".", "alpn=h2"⟩)], count,
      BitVec.ofNat 64 page, 20⟩
  patch _ _ _ _ := .ok ⟨true, []⟩

theorem getZoneData_ends_pagedClient :
    (∀ zones zoneID name rest, (pagedClient 30).zones "token" "example.com" = .ok zones →
      zones.result = (zoneID, name) :: rest → (pagedClient 30).Paged "token" zoneID 30 20) ∧
      0 ≤ (20 : BitVec 64).toInt ∧ 0 < 2 ∧ ((2 : Nat) : Int) * (20 : BitVec 64).toInt ≤ maxInt ∧
      (30 : BitVec 64).toInt ≤ ((2 : Nat) : Int) * (20 : BitVec 64).toInt ∧
      (getZoneData (pagedClient 30) 2 "token" "example.com").2 ≠ none :=
  have honest : ∀ zones zoneID name rest,
      (pagedClient 30).zones "token" "example.com" = .ok zones →
        zones.result = (zoneID, name) :: rest → (pagedClient 30).Paged "token" zoneID 30 20 :=
    fun _ _ _ _ _ _ _ _ answered _ => by cases answered; exact ⟨rfl, rfl, rfl⟩
  ⟨honest, by decide, by decide, by decide, by decide,
    getZoneData_ends honest (by decide) (by decide) (by decide) (by decide)⟩

/-- `getZoneData` never returns when the zone found first has records whose every page is
the same successful, non-empty page whose `result_info` says, by Go's wrapping product, that
more records follow. -/
theorem getZoneData_never_ends {zone name : String} {zones : ZonesResponse}
    {rest : List (String × String)} {first : RecordsResponse}
    (found : client.zones token zone = .ok zones)
    (success : zones.success = true) (listed : zones.result = (zoneID, name) :: rest)
    (repeated : ∀ p, client.records token zoneID p = .ok first) (answered : first.success = true)
    (nonempty : first.result ≠ []) (more : first.count.sle (first.page * first.perPage) = false)
    (fuel : Nat) : (getZoneData client fuel token zone).2 = none := by
  simp only [getZoneData, found, success, listed]
  exact recordPages_never_ends repeated answered nonempty more fuel 1

/-- A zone whose server answers every page with its first page of three. -/
def stuckClient : ZoneClient where
  zones _ _ := .ok ⟨true, [], [("zone1", "example.com")]⟩
  records _ _ _ :=
    .ok ⟨true, [], [("record1", "www.example.com", ⟨1, ".", "alpn=h2"⟩)], 60, 1, 20⟩
  patch _ _ _ _ := .ok ⟨true, []⟩

theorem getZoneData_never_ends_stuckClient :
    stuckClient.zones "token" "example.com" = .ok ⟨true, [], [("zone1", "example.com")]⟩ ∧
      (∀ p, stuckClient.records "token" "zone1" p =
        .ok ⟨true, [], [("record1", "www.example.com", ⟨1, ".", "alpn=h2"⟩)], 60, 1,
          20⟩) ∧
      (getZoneData stuckClient 100 "token" "example.com").2 = none :=
  ⟨rfl, fun _ => rfl,
    getZoneData_never_ends rfl rfl rfl (fun _ => rfl) rfl (by simp) (by decide) 100⟩

end Pages

/-- The client as the `CloudflareAPI` that `UpdateECH` calls, with `fuel` passes of each
zone's page loop.  With fuel enough for the loop to end, its `getZoneData` is the source's; a
loop cut short returns what it stored so far. -/
def ZoneClient.api (client : ZoneClient) (fuel : Nat) : CloudflareAPI where
  getZoneData token zone :=
    ((getZoneData client fuel token zone).1, (getZoneData client fuel token zone).2.join)
  updateRecord := updateRecord client

/-- Every PATCH that `UpdateECH` sends over the client goes to a record that a successful page
listed under one of the target's names, in the zone that the lookup with the token of the
zone's first target found first; it sends the record's data with its value rewritten, and only
when that changes the value. -/
theorem updateECH_patches_listed (client : ZoneClient) (fuel : Nat) (records : List Target)
    (configList : String) :
    ∀ p ∈ (updateECH (client.api fuel) records configList).patches,
      ∃ r ∈ records, ∃ name ∈ r.names,
        ∃ first, records.find? (·.zone = r.zone) = some first ∧
        ∃ zones zoneName rest, client.zones first.token r.zone = .ok zones ∧
          zones.success = true ∧ zones.result = (p.1, zoneName) :: rest ∧
        ∃ page ≥ 1, ∃ result, client.records first.token p.1 page = .ok result ∧
          result.success = true ∧ ∃ data, (p.2.1, name, data) ∈ result.result ∧
            p.2.2 = { data with value := updatedValue configList data.value } ∧
            updatedValue configList data.value ≠ data.value := by
  intro p sent
  obtain ⟨r, target, name, named, first, v, isFirst, found, rfl, changed⟩ :=
    updateECH_patches_sound _ records configList p sent
  obtain ⟨before, after, split, -⟩ := List.lookup_eq_some_iff.mp found
  have stored : (name, v) ∈ (getZoneData client fuel first.token r.zone).1 :=
    List.mem_reverse.mp (split ▸ List.mem_append_right _ (List.mem_cons_self _ _))
  obtain ⟨zones, zoneName, rest, lookedUp, success, listed, page, ⟨later, -⟩, result,
    answered, succeeded, listing⟩ := getZoneData_stored_iff.mp stored
  exact ⟨r, target, name, named, first, isFirst, zones, zoneName, rest, lookedUp, success, listed,
    page, later, result, answered, succeeded, v.data, listing, rfl, changed⟩

theorem updateECH_patches_listed_pagedClient :
    ("zone1", "record1", ⟨1, ".", "alpn=h2 ech=\"AEX\""⟩) ∈
        (updateECH ((pagedClient 1).api 1) [⟨"token", "example.com", ["www.example.com"]⟩]
          "AEX").patches ∧
      ∃ r ∈ [(⟨"token", "example.com", ["www.example.com"]⟩ : Target)], ∃ name ∈ r.names,
        ∃ first, [(⟨"token", "example.com", ["www.example.com"]⟩ : Target)].find?
          (·.zone = r.zone) = some first ∧
        ∃ zones zoneName rest, (pagedClient 1).zones first.token r.zone = .ok zones ∧
          zones.success = true ∧ zones.result = ("zone1", zoneName) :: rest ∧
        ∃ page ≥ 1, ∃ result,
          (pagedClient 1).records first.token "zone1" page = .ok result ∧
          result.success = true ∧ ∃ data, ("record1", name, data) ∈ result.result ∧
            (⟨1, ".", "alpn=h2 ech=\"AEX\""⟩ : HTTPSData) =
              { data with value := updatedValue "AEX" data.value } ∧
            updatedValue "AEX" data.value ≠ data.value :=
  have sent : ("zone1", "record1", ⟨1, ".", "alpn=h2 ech=\"AEX\""⟩) ∈
      (updateECH ((pagedClient 1).api 1) [⟨"token", "example.com", ["www.example.com"]⟩]
        "AEX").patches := by decide
  ⟨sent, updateECH_patches_listed _ _ _ _ _ sent⟩

end TlsProxy.Cloudflare
