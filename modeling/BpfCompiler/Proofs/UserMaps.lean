import BpfCompiler.Host.HashMap
import Mathlib.Data.List.Find
import Mathlib.Data.List.Induction

/-!
# Maps in user space over whole runs

A program asks a map for one thing after the other; a request that fails leaves the map as it is.  Only keys
that are there can be updated or deleted, so no request brings in a key, and what a lookup finds is settled by
the first entries and by the updates and deletions of its key so far.  A map that starts empty stays empty.
-/

namespace BpfCompiler.Host

/-- Among the given keys, equality is symmetric and transitive. -/
structure LawfulKeys {κ : Type} [BEq κ] (keys : κ → Prop) : Prop where
  symm : ∀ {a b : κ}, keys a → keys b → (a == b) = true → (b == a) = true
  trans : ∀ {a b c : κ}, keys a → keys b → keys c → (a == b) = true → (b == c) = true →
    (a == c) = true

theorem LawfulKeys.congr_left {κ : Type} [BEq κ] {keys : κ → Prop} (h : LawfulKeys keys) {a b c : κ}
    (ha : keys a) (hb : keys b) (hc : keys c) (hab : (a == b) = true) : (a == c) = (b == c) := by
  rw [Bool.eq_iff_iff]
  constructor
  · exact h.trans hb ha hc (h.symm ha hb hab)
  · exact h.trans ha hb hc hab

theorem LawfulKeys.congr_right {κ : Type} [BEq κ] {keys : κ → Prop} (h : LawfulKeys keys) {a b c : κ}
    (ha : keys a) (hb : keys b) (hc : keys c) (hbc : (b == c) = true) : (a == b) = (a == c) := by
  rw [Bool.eq_iff_iff]
  constructor
  · exact fun hab => h.trans ha hb hc hab hbc
  · exact fun hac => h.trans ha hc hb hac (h.symm hb hc hbc)

namespace MapRequest

variable {κ α : Type}

def key : MapRequest κ α → κ
  | .lookup key | .update key _ | .delete key => key

/-- Whether the request is an update or a deletion. -/
def changes : MapRequest κ α → Bool
  | .lookup _ => false
  | .update _ _ | .delete _ => true

variable [BEq κ]

def deletes (key : κ) : MapRequest κ α → Bool
  | .delete k => key == k
  | _ => false

/-- The value that the request wants to give to a key. -/
def written? (key : κ) : MapRequest κ α → Option α
  | .update k value => if key == k then some value else none
  | _ => none

end MapRequest

namespace HashMap

variable {κ α : Type} [BEq κ]

/-! ### Runs -/

/-- The answer to a request, or the key that is missing. -/
def answer (m : HashMap κ α) (request : MapRequest κ α) : Except κ (Option α) :=
  ((serve request).run.run m).1

/-- The map after a request, whether it is answered or fails. -/
def next (m : HashMap κ α) (request : MapRequest κ α) : HashMap κ α := ((serve request).run.run m).2

/-- The map after requests in turn. -/
def after (m : HashMap κ α) (requests : List (MapRequest κ α)) : HashMap κ α := requests.foldl next m

def keys (m : HashMap κ α) : List κ := m.entries.map Prod.fst

theorem after_concat (m : HashMap κ α) (before : List (MapRequest κ α)) (request : MapRequest κ α) :
    m.after (before ++ [request]) = (m.after before).next request := by
  simp [after]

@[simp]
theorem answer_lookup (m : HashMap κ α) (key : κ) : m.answer (.lookup key) = .ok (m.lookup key) := rfl

@[simp]
theorem next_lookup (m : HashMap κ α) (key : κ) : m.next (.lookup key) = m := rfl

/-- A change is made to a key that is there; one that fails has done nothing. -/
theorem run_change (m : HashMap κ α) (key : κ) (f : HashMap κ α → HashMap κ α) :
    (change key f).run.run m = if m.contains key then (.ok (), f m) else (.error key, m) := by
  have hget : (change key f).run.run m =
      (if m.contains key then modify f else throw key : Steps κ α κ Unit).run.run m := rfl
  rw [hget]
  split <;> rfl

theorem answer_change (m : HashMap κ α) (key : κ) (f : HashMap κ α → HashMap κ α) :
    ((change key f >>= fun _ => pure (none : Option α)).run.run m).1 =
      if m.contains key then .ok none else .error key := by
  rw [ExceptT.run_bind, StateT.run_bind, run_change]
  split <;> rfl

theorem next_change (m : HashMap κ α) (key : κ) (f : HashMap κ α → HashMap κ α) :
    ((change key f >>= fun _ => pure (none : Option α)).run.run m).2 =
      if m.contains key then f m else m := by
  rw [ExceptT.run_bind, StateT.run_bind, run_change]
  split <;> rfl

theorem answer_update (m : HashMap κ α) (key : κ) (value : α) :
    m.answer (.update key value) = if m.contains key then .ok none else .error key :=
  m.answer_change key _

theorem next_update (m : HashMap κ α) (key : κ) (value : α) :
    m.next (.update key value) = if m.contains key then m.put key value else m :=
  m.next_change key _

theorem answer_delete (m : HashMap κ α) (key : κ) :
    m.answer (.delete key) = if m.contains key then .ok none else .error key :=
  m.answer_change key _

theorem next_delete (m : HashMap κ α) (key : κ) :
    m.next (.delete key) = if m.contains key then m.erase key else m :=
  m.next_change key _

/-- A request fails for want of its key, and only if it would change the map. -/
theorem answer_eq_error_iff (m : HashMap κ α) (request : MapRequest κ α) (missing : κ) :
    m.answer request = .error missing ↔
      missing = request.key ∧ request.changes = true ∧ m.contains request.key = false := by
  cases request with
  | lookup key => simp [MapRequest.changes]
  | update key value =>
    by_cases hkey : m.contains key = true
    · simp [answer_update, MapRequest.key, hkey]
    · simp [answer_update, MapRequest.key, MapRequest.changes, hkey, eq_comm]
  | delete key =>
    by_cases hkey : m.contains key = true
    · simp [answer_delete, MapRequest.key, hkey]
    · simp [answer_delete, MapRequest.key, MapRequest.changes, hkey, eq_comm]

theorem next_of_missing {m : HashMap κ α} {request : MapRequest κ α}
    (h : m.contains request.key = false) : m.next request = m := by
  cases request with
  | lookup key => rfl
  | update key value =>
    have hkey : m.contains key = false := h
    simp [next_update, hkey]
  | delete key =>
    have hkey : m.contains key = false := h
    simp [next_delete, hkey]

theorem contains_eq_isSome_lookup (m : HashMap κ α) (key : κ) :
    m.contains key = (m.lookup key).isSome := by
  rw [Bool.eq_iff_iff]
  simp [contains, lookup, List.find?_isSome]

/-! ### Keys -/

theorem keys_next_sublist (m : HashMap κ α) (request : MapRequest κ α) :
    (m.next request).keys.Sublist m.keys := by
  cases request with
  | lookup key => exact List.Sublist.refl _
  | update key value =>
    by_cases hkey : m.contains key = true <;> simp [next_update, hkey, keys, put, map_fst_replace]
  | delete key =>
    by_cases hkey : m.contains key = true
    · rw [next_delete, if_pos hkey]
      exact List.eraseP_sublist.map Prod.fst
    · simp [next_delete, hkey]

theorem keys_after_sublist (m : HashMap κ α) (requests : List (MapRequest κ α)) :
    (m.after requests).keys.Sublist m.keys := by
  induction requests using List.reverseRecOn with
  | nil => exact List.Sublist.refl _
  | append_singleton before request ih =>
    rw [after_concat]
    exact (keys_next_sublist _ request).trans ih

section Lawful

variable {known : κ → Prop} (hlawful : LawfulKeys known)
include hlawful

/-- Behind the entry of a key there is no other one. -/
theorem rest_ne_of_pairwise {k key : κ} {v : α} {rest : List (κ × α)}
    (hknown : ∀ e ∈ (k, v) :: rest, known e.1) (hkey : known key) (hk : (k == key) = true)
    (hdistinct : ((k, v) :: rest).Pairwise fun a b => (a.1 == b.1) = false) :
    ∀ e ∈ rest, (e.1 == key) = false := by
  intro e he
  have hke : (k == e.1) = false := (List.pairwise_cons.mp hdistinct).1 e he
  have hknownK : known k := hknown (k, v) (by simp)
  have hknownE : known e.1 := hknown e (by simp [he])
  rw [← Bool.not_eq_true]
  intro hek
  have hsame := hlawful.trans hknownK hkey hknownE hk (hlawful.symm hknownE hkey hek)
  simp [hke] at hsame

theorem put_entries {m : HashMap κ α} (hknown : ∀ k ∈ m.keys, known k) {key : κ} (hkey : known key)
    (value : α) :
    (m.put key value).entries = m.entries.map fun e => if e.1 == key then (e.1, value) else e := by
  obtain ⟨entries, hdistinct⟩ := m
  simp only [keys, List.forall_mem_map] at hknown
  simp only [put]
  induction entries with
  | nil => rfl
  | cons e rest ih =>
    obtain ⟨k, v⟩ := e
    by_cases hk : (k == key) = true
    · have hrest := rest_ne_of_pairwise hlawful hknown hkey hk hdistinct
      have hsame : rest.map (fun e => if e.1 == key then (e.1, value) else e) = rest := by
        refine (List.map_congr_left fun e he => ?_).trans (List.map_id rest)
        simp [hrest e he]
      simp [replace, hk, hsame]
    · have hrest := ih (List.pairwise_cons.mp hdistinct).2 fun e he => hknown e (by simp [he])
      simp [replace, hk, hrest]

theorem erase_entries {m : HashMap κ α} (hknown : ∀ k ∈ m.keys, known k) {key : κ} (hkey : known key) :
    (m.erase key).entries = m.entries.filter fun e => !(e.1 == key) := by
  obtain ⟨entries, hdistinct⟩ := m
  simp only [keys, List.forall_mem_map] at hknown
  simp only [erase]
  induction entries with
  | nil => rfl
  | cons e rest ih =>
    obtain ⟨k, v⟩ := e
    by_cases hk : (k == key) = true
    · have hrest := rest_ne_of_pairwise hlawful hknown hkey hk hdistinct
      have hsame : rest.filter (fun e => !(e.1 == key)) = rest := by
        refine List.filter_eq_self.mpr fun e he => ?_
        simp [hrest e he]
      simp [hk, hsame]
    · have hrest := ih (List.pairwise_cons.mp hdistinct).2 fun e he => hknown e (by simp [he])
      simp [hk, hrest]

/-- An update that is answered gives the value to its own key and to no other. -/
theorem entries_next_update {m : HashMap κ α} (hknown : ∀ k ∈ m.keys, known k) {key : κ} {value : α}
    {answer : Option α} (hkey : known key) (h : m.answer (.update key value) = .ok answer) :
    answer = none ∧ (m.next (.update key value)).entries =
      m.entries.map fun e => if e.1 == key then (e.1, value) else e := by
  by_cases hhas : m.contains key = true
  · rw [answer_update, if_pos hhas] at h
    rw [next_update, if_pos hhas, put_entries hlawful hknown hkey]
    exact ⟨by cases h; rfl, rfl⟩
  · rw [answer_update, if_neg hhas] at h
    cases h

/-- A deletion that is answered removes its own key and no other. -/
theorem entries_next_delete {m : HashMap κ α} (hknown : ∀ k ∈ m.keys, known k) {key : κ}
    {answer : Option α} (hkey : known key) (h : m.answer (.delete key) = .ok answer) :
    answer = none ∧ (m.next (.delete key)).entries = m.entries.filter fun e => !(e.1 == key) := by
  by_cases hhas : m.contains key = true
  · rw [answer_delete, if_pos hhas] at h
    rw [next_delete, if_pos hhas, erase_entries hlawful hknown hkey]
    exact ⟨by cases h; rfl, rfl⟩
  · rw [answer_delete, if_neg hhas] at h
    cases h

/-! ### Lookups -/

/-- Equal keys have the same value. -/
theorem lookup_congr {m : HashMap κ α} (hknown : ∀ k ∈ m.keys, known k) {key other : κ}
    (hkey : known key) (hother : known other) (hsame : (key == other) = true) :
    m.lookup key = m.lookup other := by
  refine congrArg (Option.map Prod.snd) (List.find?_congr fun e he => ?_)
  exact hlawful.congr_right (hknown e.1 (List.mem_map_of_mem he)) hkey hother hsame

/-- The entry that is found for a key belongs to the keys that equal it and to no other. -/
theorem beq_of_find? {m : HashMap κ α} (hknown : ∀ k ∈ m.keys, known k) {key other : κ}
    (hkey : known key) (hother : known other) {e : κ × α}
    (he : m.entries.find? (fun (k, _) => k == other) = some e) : (e.1 == key) = (other == key) := by
  have hfound : (e.1 == other) = true := by simpa using List.find?_some he
  have hmem : e ∈ m.entries := List.mem_of_find?_eq_some he
  exact hlawful.congr_left (hknown e.1 (List.mem_map_of_mem hmem)) hother hkey hfound

theorem lookup_put {m : HashMap κ α} (hknown : ∀ k ∈ m.keys, known k) {key other : κ} (hkey : known key)
    (hother : known other) (hhas : m.contains key = true) (value : α) :
    (m.put key value).lookup other = if other == key then some value else m.lookup other := by
  have hkeyOf : ∀ e : κ × α, (if e.1 == key then (e.1, value) else e).1 = e.1 := by
    intro e
    split <;> rfl
  rw [lookup, put_entries hlawful hknown hkey, List.find?_map, Option.map_map]
  simp only [Function.comp_def, hkeyOf]
  cases hfind : m.entries.find? fun (k, _) => k == other with
  | some e =>
    have he := beq_of_find? hlawful hknown hkey hother hfind
    by_cases hsame : (other == key) = true <;> simp [lookup, hfind, he, hsame]
  | none =>
    have hnone : m.lookup other = none := by simp [lookup, hfind]
    by_cases hsame : (other == key) = true
    · rw [contains_eq_isSome_lookup, ← lookup_congr hlawful hknown hother hkey hsame, hnone] at hhas
      cases hhas
    · simp [hnone, hsame]

theorem lookup_erase {m : HashMap κ α} (hknown : ∀ k ∈ m.keys, known k) {key other : κ}
    (hkey : known key) (hother : known other) :
    (m.erase key).lookup other = if other == key then none else m.lookup other := by
  rw [lookup, erase_entries hlawful hknown hkey, List.find?_filter]
  simp only [Bool.decide_and, Bool.decide_eq_true]
  by_cases hsame : (other == key) = true
  · have hnone : ∀ e ∈ m.entries, ¬(!(e.1 == key) && e.1 == other) = true := by
      intro e he
      have hknownE := hknown e.1 (List.mem_map_of_mem he)
      rw [hlawful.congr_right hknownE hother hkey hsame]
      simp
    rw [List.find?_eq_none.mpr hnone]
    simp [hsame]
  · have hkept : ∀ e ∈ m.entries, (!(e.1 == key) && e.1 == other) = (e.1 == other) := by
      intro e he
      by_cases heo : (e.1 == other) = true
      · rw [hlawful.congr_left (hknown e.1 (List.mem_map_of_mem he)) hother hkey heo]
        simp [hsame]
      · simp [heo]
    rw [List.find?_congr hkept]
    simp [hsame, lookup]

/-- One request: a key loses its value to a deletion and takes the value of an update; a request that fails
asks for a key without a value. -/
theorem lookup_next {m : HashMap κ α} (hknown : ∀ k ∈ m.keys, known k) {request : MapRequest κ α}
    {key : κ} (hrequest : known request.key) (hkey : known key) :
    (m.next request).lookup key = if request.deletes key then none else
      (m.lookup key).map fun value => (request.written? key).getD value := by
  by_cases hhas : m.contains request.key = true
  · cases request with
    | lookup k => simp [MapRequest.deletes, MapRequest.written?]
    | update k value =>
      have hk : known k := hrequest
      have hhas : m.contains k = true := hhas
      rw [next_update, if_pos hhas, lookup_put hlawful hknown hk hkey hhas]
      by_cases hsame : (key == k) = true
      · have hsome : (m.lookup key).isSome = true := by
          rw [lookup_congr hlawful hknown hkey hk hsame, ← contains_eq_isSome_lookup]
          exact hhas
        obtain ⟨old, hold⟩ := Option.isSome_iff_exists.mp hsome
        simp [MapRequest.deletes, MapRequest.written?, hsame, hold]
      · simp [MapRequest.deletes, MapRequest.written?, hsame]
    | delete k =>
      have hk : known k := hrequest
      have hhas : m.contains k = true := hhas
      rw [next_delete, if_pos hhas, lookup_erase hlawful hknown hk hkey]
      simp [MapRequest.deletes, MapRequest.written?]
  · -- the request fails or finds nothing, and the keys that equal its own have no value either
    have hnone : (key == request.key) = true → m.lookup key = none := by
      intro hsame
      rw [lookup_congr hlawful hknown hkey hrequest hsame]
      simpa [contains_eq_isSome_lookup] using hhas
    rw [next_of_missing (by simpa using hhas)]
    by_cases hsame : (key == request.key) = true
    · simp [hnone hsame]
    · cases request <;> simp_all [MapRequest.deletes, MapRequest.written?, MapRequest.key]

/-- What a lookup finds after a run: nothing if the key has been deleted, or else the last value written over
the first one. -/
theorem lookup_after {m : HashMap κ α} (hknown : ∀ k ∈ m.keys, known k) {key : κ} (hkey : known key)
    (requests : List (MapRequest κ α)) (hrequests : ∀ r ∈ requests, known r.key) :
    (m.after requests).lookup key = if requests.any (MapRequest.deletes key) then none else
      (m.lookup key).map fun initial =>
        (requests.reverse.findSome? (MapRequest.written? key)).getD initial := by
  induction requests using List.reverseRecOn with
  | nil => simp [after]
  | append_singleton before request ih =>
    have hnow : ∀ k ∈ (m.after before).keys, known k := fun k hk =>
      hknown k ((m.keys_after_sublist before).subset hk)
    rw [after_concat, lookup_next hlawful hnow (hrequests request (by simp)) hkey,
      ih fun r hr => hrequests r (by simp [hr])]
    by_cases hdeletes : request.deletes key = true
    · simp [hdeletes]
    · by_cases hdeleted : before.any (MapRequest.deletes key) = true
      · simp [hdeleted]
      · cases hwritten : request.written? key <;> simp [hdeletes, hdeleted, hwritten, Function.comp_def]

end Lawful

end HashMap

/-! ### Calls -/

/-- The request of a call that has the right number of arguments. -/
def MapCall.request? : MapCall → Option (MapRequest Datum Datum)
  | .lookup [key] => some (.lookup key)
  | .update [key, value] | .update [key, value, _] => some (.update key value)
  | .delete [key] => some (.delete key)
  | _ => none

/-- A call for a key that can be one is served as its request. -/
theorem MapCall.run_of_request? {m : HashMap Datum Datum} {call : MapCall}
    {request : MapRequest Datum Datum} (hcall : call.request? = some request)
    (hkey : request.key.isKey = true) :
    call.run.run.run m =
      (((m.answer request).mapError .missingKey).map (·.getD .null), m.next request) := by
  have hserve : call.run = serveCall request request.key := by
    unfold MapCall.request? at hcall
    split at hcall <;> cases hcall <;> rfl
  have hable : hashable request.key = pure () := by rw [hashable, if_pos hkey]
  have hadapt : (ExceptT.adapt MapFault.missingKey (HashMap.serve request)).run.run m =
      ((m.answer request).mapError .missingKey, m.next request) := rfl
  rw [hserve, serveCall, hable, pure_bind, ExceptT.run_bind, StateT.run_bind, hadapt]
  cases m.answer request <;> rfl

/-! ### Keys without fractions -/

/-- The integer or the text that tells a key from the others; neither for the null key. -/
def keyValue : Datum → Option Int × Option Text
  | .text t => (none, some t)
  | d => (d.toInt?, none)

def isExactKey : Datum → Bool
  | .null | .bool _ | .int _ | .text _ => true
  | _ => false

theorem beq_iff_keyValue_eq {a b : Datum} (ha : isExactKey a = true) (hb : isExactKey b = true) :
    (a == b) = true ↔ keyValue a = keyValue b := by
  cases a <;> cases b <;> simp_all [isExactKey, keyValue, BEq.beq, Datum.same, Datum.toInt?]

/-- Integers, truth values, texts and null are lawful keys together, though some of them equal others. -/
theorem lawfulKeys_isExactKey : LawfulKeys fun d => isExactKey d = true where
  symm ha hb hab := by
    rw [beq_iff_keyValue_eq hb ha]
    exact ((beq_iff_keyValue_eq ha hb).mp hab).symm
  trans ha hb hc hab hbc := by
    rw [beq_iff_keyValue_eq ha hc]
    exact ((beq_iff_keyValue_eq ha hb).mp hab).trans ((beq_iff_keyValue_eq hb hc).mp hbc)

/-- Over every run: keys only go away; a request touches the entry of its own key and nothing else; it fails
exactly when it would change a key that is missing, and then changes nothing; and a lookup answers with what
the history of its key says.  A map that starts without entries takes no update.  Calls are served so. -/
theorem HashMap.run_history {κ α : Type} [BEq κ] {known : κ → Prop} (hlawful : LawfulKeys known)
    (m : HashMap κ α) (hentries : ∀ k ∈ m.keys, known k) (before : List (MapRequest κ α))
    (request : MapRequest κ α) (hrequests : ∀ r ∈ request :: before, known r.key) :
    let now := m.after before
    let next := now.next request
    next.keys.Sublist now.keys ∧ now.keys.Sublist m.keys ∧
    (∀ key value answer, request = .update key value → now.answer request = .ok answer →
      answer = none ∧ next.entries = now.entries.map fun e => if e.1 == key then (e.1, value) else e) ∧
    (∀ key answer, request = .delete key → now.answer request = .ok answer →
      answer = none ∧ next.entries = now.entries.filter fun e => !(e.1 == key)) ∧
    (∀ key, request = .lookup key → next = now ∧
      now.answer request = .ok (if before.any (MapRequest.deletes key) then none else
        (m.lookup key).map fun initial =>
          (before.reverse.findSome? (MapRequest.written? key)).getD initial)) ∧
    ((∃ missing, now.answer request = .error missing) ↔
      request.changes = true ∧ now.contains request.key = false) ∧
    (∀ missing, now.answer request = .error missing → missing = request.key ∧ next = now) ∧
    (m.entries = [] → ∀ key value, request = .update key value → now.answer request = .error key) ∧
    (∀ (table : HashMap Datum Datum) (call : MapCall) (asked : MapRequest Datum Datum),
      call.request? = some asked → asked.key.isKey = true →
      (call.run.run.run table).2 = table.next asked ∧
      match table.answer asked with
      | .ok value => (call.run.run.run table).1 = .ok (value.getD .null)
      | .error key => ∃ fault, (call.run.run.run table).1 = .error fault ∧ fault = .missingKey key ∧
          fault.className = "KeyError") := by
  intro now next
  have hnow : ∀ k ∈ now.keys, known k := fun k hk => hentries k ((m.keys_after_sublist before).subset hk)
  have hrequest : known request.key := hrequests request (by simp)
  refine ⟨keys_next_sublist now request, keys_after_sublist m before, ?update, ?delete, ?lookup, ?fails,
    ?failed, ?fresh, ?calls⟩
  case update =>
    rintro key value answer rfl hanswer
    exact entries_next_update hlawful hnow hrequest hanswer
  case delete =>
    rintro key answer rfl hanswer
    exact entries_next_delete hlawful hnow hrequest hanswer
  case lookup =>
    rintro key rfl
    have hbefore : ∀ r ∈ before, known r.key := fun r hr => hrequests r (by simp [hr])
    exact ⟨rfl, congrArg Except.ok (lookup_after hlawful hentries hrequest before hbefore)⟩
  case fails => simp [answer_eq_error_iff]
  case failed =>
    intro missing hanswer
    have h := (now.answer_eq_error_iff request missing).mp hanswer
    exact ⟨h.1, next_of_missing h.2.2⟩
  case fresh =>
    rintro hempty key value rfl
    have hkeys : now.keys = [] := by
      have h := keys_after_sublist m before
      rwa [keys, keys, hempty, List.map_nil, List.sublist_nil] at h
    have hnone : now.entries = [] := by simpa [keys] using hkeys
    simp [answer_update, contains, hnone]
  case calls =>
    intro table call asked hcall hkey
    rw [MapCall.run_of_request? hcall hkey]
    refine ⟨rfl, ?_⟩
    cases table.answer asked with
    | ok value => rfl
    | error key => exact ⟨_, rfl, rfl, rfl⟩

/-- The truth value and the integer are one key, whose last value stays, while the deleted text can no longer
be updated. -/
theorem HashMap.run_history_mixed_keys :
    let m : HashMap Datum Datum := ⟨[(.int 1, .text "one"), (.text "a", .int 0)], by decide⟩
    let before : List (MapRequest Datum Datum) :=
      [.update (.bool true) (.text "two"), .delete (.text "a"), .update (.text "a") (.int 5)]
    (m.after before).answer (.lookup (.int 1)) = .ok (some (.text "two")) ∧
    (m.after before).answer (.lookup (.text "a")) = .ok none ∧
    (∃ missing, (m.after before).answer (.update (.text "a") (.int 5)) = .error missing) := by
  intro m before
  have hentries : ∀ k ∈ m.keys, isExactKey k = true := by simp [m, keys, isExactKey]
  have hrequests : ∀ r ∈ before, isExactKey r.key = true := by simp [before, MapRequest.key, isExactKey]
  have run := fun request (h : isExactKey (MapRequest.key request) = true) =>
    run_history lawfulKeys_isExactKey m hentries before request (List.forall_mem_cons.mpr ⟨h, hrequests⟩)
  obtain ⟨-, -, -, -, hone, -⟩ := run (.lookup (.int 1)) rfl
  obtain ⟨-, -, -, -, ha, -⟩ := run (.lookup (.text "a")) rfl
  obtain ⟨-, -, -, -, -, hfails, -⟩ := run (.update (.text "a") (.int 5)) rfl
  exact ⟨(hone _ rfl).2, (ha _ rfl).2, hfails.mpr ⟨rfl, rfl⟩⟩

end BpfCompiler.Host
