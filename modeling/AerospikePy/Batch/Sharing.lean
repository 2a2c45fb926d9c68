import AerospikePy.Batch.Cache
import AerospikePy.Python.Store

/-!
# What the caller shares with the cache

The cached dict of a handle as an object in a store, next to the dicts that the caller has
from `to_dict`. `to_dict` copies the cached dict itself and not what is in it, so that the
dicts of bins, and the lists and dicts in them, are the handle's and the caller's alike.
-/

namespace AerospikePy.Batch

open AerospikePy.Core
open AerospikePy.Lib
open AerospikePy.Lib.Fallible
open AerospikePy.Lib.ObjectGraph
open AerospikePy.Python
open AerospikePy.Values

/-- A handle, and the dicts that its `to_dict` has returned so far. -/
structure World where
  store : Store
  inner : Results
  cachedDict : Option Nat
  returned : List Nat

def World.start (results : Results) : World := ⟨[], results, none, []⟩

/-- What a call returns, by addresses where it returns objects of the store. -/
inductive StoredAnswer where
  | nothing
  | object (slot : Slot)
  | bool (b : Bool)
  | count (n : Nat)
  | yields (slots : List Slot)
  | pairs (entries : List (PyObj × Slot))
  | dict (addr : Nat)

variable (rt : Runtime) (repr : Repr)

/-- `cached_dict`: the address of the dict, and the handle afterwards. -/
def World.materialise (w : World) : Except PyErr (Nat × World) :=
  match w.cachedDict with
  | some c => .ok (c, w)
  | none => do
    let d ← batchToDictPy rt w.inner
    let (entries, store) := placeEntries d w.store
    return (store.length,
      { w with store := store ++ [.dict entries], cachedDict := some store.length })

def dictAt (s : Store) (addr : Nat) : List (PyObj × Slot) :=
  match s[addr]? with
  | some (.dict entries) => entries
  | _ => []

def lookupSlot (entries : List (PyObj × Slot)) (key : PyObj) : Except PyErr (Option Slot) := do
  require (key.hashable = true) (unhashable key)
  return Assoc.lookup pyEq entries key

/-- What a view returns of the cached dict; `copy` is where `to_dict` puts its copy. -/
def View.answerAt (v : View) (entries : List (PyObj × Slot)) (copy : Nat) :
    Except PyErr StoredAnswer :=
  match v with
  | .getItem key => do
    match ← lookupSlot entries key with
    | some slot => return .object slot
    | none =>
      let text ← repr key
      throw (notPresent text)
  | .contains key => do
    let found ← lookupSlot entries key
    return .bool found.isSome
  | .get key default => do
    match ← lookupSlot entries key with
    | some slot => return .object slot
    | none => return .object (.leaf (default.getD .none))
  | .iter => .ok (.yields (entries.map fun e => .leaf e.1))
  | .items => .ok (.pairs entries)
  | .keys => .ok (.yields (entries.map fun e => .leaf e.1))
  | .values => .ok (.yields (entries.map (·.2)))
  | .toDict => .ok (.dict copy)

/-- `to_dict` copies the cached dict, `PyDict::copy`; the other views make no object. -/
def World.afterView (w : World) (v : View) (entries : List (PyObj × Slot)) : World :=
  match v with
  | .toDict =>
    { w with store := w.store ++ [.dict entries], returned := w.returned ++ [w.store.length] }
  | _ => w

def World.perform (w : World) (call : Call) : Except PyErr StoredAnswer × World :=
  match call with
  | .view v => match w.materialise rt with
    | .error e => (.error e, w)
    | .ok (c, w) =>
      (v.answerAt repr (dictAt w.store c) w.store.length, w.afterView v (dictAt w.store c))
  | .releaseCache => (.ok .nothing, { w with cachedDict := none })
  | .len => (.ok (.count (len w.inner)), w)
  | .foundCount => (.ok (.count (foundCount w.inner)), w)

inductive PathStep where
  | key (key : PyObj)
  | index (i : Nat)

/-- An object within a dict that `to_dict` has returned: which one, and the subscripts. -/
structure Path where
  root : Nat
  steps : List PathStep

def follow (s : Store) : Slot → List PathStep → Option Slot
  | slot, [] => some slot
  | .ref addr, .key key :: rest => match s[addr]? with
    | some (.dict entries) => match lookupSlot entries key with
      | .ok (some slot) => follow s slot rest
      | _ => none
    | _ => none
  | .ref addr, .index i :: rest => match s[addr]? with
    | some (.list items) | some (.tuple items) => items[i]?.bind fun slot => follow s slot rest
    | _ => none
  | .leaf _, _ :: _ => none

def World.resolve (w : World) (path : Path) : Option Slot :=
  w.returned[path.root]?.bind fun addr => follow w.store (.ref addr) path.steps

/-- What the caller writes: an object of its own, or one that it has from `to_dict`. -/
inductive Written where
  | fresh (obj : PyObj)
  | held (path : Path)

inductive Edit (V : Type) where
  | setItem (key : PyObj) (value : V)
  | delItem (key : PyObj)
  | setIndex (i : Nat) (value : V)
  | insert (i : Nat) (value : V)
  | delIndex (i : Nat)

def Edit.value? {V : Type} : Edit V → Option V
  | setItem _ value | setIndex _ value | insert _ value => some value
  | delItem _ | delIndex _ => none

def World.write (w : World) : Written → Option (Slot × Store)
  | .fresh obj => some (place obj w.store)
  | .held path => (w.resolve path).map fun slot => (slot, w.store)

def World.resolveEdit (w : World) : Edit Written → Option (Edit Slot × Store)
  | .setItem key value => (w.write value).map fun r => (.setItem key r.1, r.2)
  | .delItem key => some (.delItem key, w.store)
  | .setIndex i value => (w.write value).map fun r => (.setIndex i r.1, r.2)
  | .insert i value => (w.write value).map fun r => (.insert i r.1, r.2)
  | .delIndex i => some (.delIndex i, w.store)

/-- The object after the edit; `none` where Python raises. -/
def editObject : Object → Edit Slot → Option Object
  | .dict entries, .setItem key slot =>
    if key.hashable then some (.dict (Assoc.insert pyEq entries key slot)) else none
  | .dict entries, .delItem key => match lookupSlot entries key with
    | .ok (some _) => some (.dict (entries.filter fun e => !pyEq e.1 key))
    | _ => none
  | .list items, .setIndex i slot =>
    if i < items.length then some (.list (items.set i slot)) else none
  | .list items, .insert i slot => some (.list (items.take i ++ slot :: items.drop i))
  | .list items, .delIndex i => if i < items.length then some (.list (items.eraseIdx i)) else none
  | _, _ => none

def World.edit (w : World) (target : Path) (e : Edit Written) : Option World :=
  match w.resolve target with
  | some (.ref addr) => do
    let (e, store) ← w.resolveEdit e
    let o ← store[addr]?
    let o ← editObject o e
    some { w with store := store.set addr o }
  | _ => none

inductive Action where
  | call (call : Call)
  | edit (target : Path) (e : Edit Written)

def World.step (w : World) (a : Action) : Option World :=
  match a with
  | .call call => some (w.perform rt repr call).2
  | .edit target e => w.edit target e

def ShowsAnswer (s : Store) : StoredAnswer → Answer → Prop
  | .nothing, .nothing => True
  | .object slot, .object obj => Shows s obj slot
  | .bool b, .bool b' => b = b'
  | .count n, .count n' => n = n'
  | .yields slots, .yields objs => ShowsAll s objs slots
  | .pairs entries, .pairs es => ShowsEntries s es entries
  | .dict addr, .dict d => Shows s (.dict d) (.ref addr)
  | _, _ => False

/-- The same error, or objects that show the answer. -/
def Presents (s : Store) : Except PyErr StoredAnswer → Outcome Answer → Prop
  | .ok stored, .returned a => ShowsAnswer s stored a
  | .error e, .raised e' => e = e'
  | _, _ => False

/-- Whatever is called next answers as on a handle that the records were just put in. -/
def World.Faithful (w : World) (results : Results) : Prop :=
  ∀ call, Presents (w.perform rt repr call).2.store (w.perform rt repr call).1
    ((fromResults results).perform rt repr call .completes).1

/-- The object that is edited is not to be reached from the cached dict. -/
def EditsApart (w : World) : Action → Prop
  | .call _ => True
  | .edit target _ => ∀ a c, w.resolve target = some (.ref a) → w.cachedDict = some c →
    ¬ Reaches Object.points w.store c a

/-- The dict at `c` is that of the results, and holds none of the dicts that `to_dict`
returned. -/
structure Cached (results : Results) (w : World) (c : Nat) : Prop where
  lt : c < w.store.length
  shows : ∃ d, batchToDictPy rt results = .ok d ∧ Shows w.store (.dict d) (.ref c)
  apart : ∀ a ∈ w.returned, ¬ Reaches Object.points w.store c a

structure World.Sound (results : Results) (w : World) : Prop where
  inner : w.inner = results
  complete : Complete Object.points w.store
  returned : ∀ a ∈ w.returned, a < w.store.length
  cached : ∀ c, w.cachedDict = some c → Cached rt results w c

variable {rt repr} {results : Results} {w : World} {c : Nat}

theorem materialise_sound {t : World} (hs : w.Sound rt results)
    (h : w.materialise rt = .ok (c, t)) : t.Sound rt results ∧ t.cachedDict = some c := by
  unfold World.materialise at h
  split at h
  · next hc =>
    obtain ⟨rfl, rfl⟩ := Prod.mk.inj (Except.ok.inj h)
    exact ⟨hs, hc⟩
  · obtain ⟨d, hd, h⟩ := bind_eq_ok.mp h
    obtain ⟨rfl, rfl⟩ := Prod.mk.inj (Except.ok.inj h)
    rw [hs.inner] at hd
    obtain ⟨hgrows, hwithin, hshows⟩ := place_spec (.dict d) w.store
    refine ⟨⟨hs.inner, hgrows.complete hs.complete, fun a ha => ?_, fun c hc => ?_⟩, rfl⟩
    · exact Nat.lt_of_lt_of_le (hs.returned a ha) hgrows.length_le
    · obtain rfl := Option.some.inj hc
      have hbounds := hwithin _ rfl
      refine ⟨hbounds.2, ⟨d, hd, hshows⟩, fun a ha hreach => ?_⟩
      -- what the conversion made is new, and so is all that can be reached from it
      obtain ⟨new, heq, hnew⟩ := hgrows
      have hge : w.store.length ≤ a := by
        apply Reaches.ge_of_append (fun o ho b hb => (hnew o ho b hb).1) hbounds.1
        rw [← heq]
        exact hreach
      have hlt := hs.returned a ha
      omega

theorem materialise_eq_error {e : PyErr} (h : w.materialise rt = .error e) :
    batchToDictPy rt w.inner = .error e := by
  unfold World.materialise at h
  split at h
  · cases h
  · cases hd : batchToDictPy rt w.inner with
    | error e' =>
      rw [hd] at h
      exact congrArg Except.error (Except.error.inj h)
    | ok d =>
      rw [hd] at h
      cases h

/-- The entries of the cached dict. -/
theorem Cached.entries (h : Cached rt results w c) :
    ∃ d entries, batchToDictPy rt results = .ok d ∧ w.store[c]? = some (.dict entries) ∧
      dictAt w.store c = entries ∧ ShowsEntries w.store d entries := by
  obtain ⟨d, hd, hshows⟩ := h.shows
  obtain ⟨entries, hget, hentries⟩ := shows_dict_ref.mp hshows
  exact ⟨d, entries, hd, hget, by rw [dictAt, hget], hentries⟩

theorem afterView_sound (v : View) (hs : w.Sound rt results) (hc : w.cachedDict = some c) :
    (w.afterView v (dictAt w.store c)).Sound rt results := by
  obtain ⟨d, entries, -, hget, hat, -⟩ := (hs.cached c hc).entries
  unfold World.afterView
  split
  · have hlen : (w.store ++ [Object.dict (dictAt w.store c)]).length = w.store.length + 1 :=
      List.length_append
    refine ⟨hs.inner, ?_, fun a ha => ?_, fun c' hc' => ?_⟩
    · apply complete_append hs.complete
      intro o ho b hb
      obtain rfl := List.mem_singleton.mp ho
      rw [hat] at hb
      have hlt := hs.complete _ (List.mem_of_getElem? hget) b hb
      omega
    · rcases List.mem_append.mp ha with ha | ha
      · have hlt := hs.returned a ha
        show a < (w.store ++ [Object.dict (dictAt w.store c)]).length
        omega
      · obtain rfl := List.mem_singleton.mp ha
        show w.store.length < (w.store ++ [Object.dict (dictAt w.store c)]).length
        omega
    · obtain rfl : c = c' := Option.some.inj (hc.symm.trans hc')
      have hcached := hs.cached c hc
      obtain ⟨d, hd, hshows⟩ := hcached.shows
      refine ⟨?_, ⟨d, hd, hshows.of_keeps (keeps_snoc _ _ _)⟩, fun a ha hreach => ?_⟩
      · show c < (w.store ++ [Object.dict (dictAt w.store c)]).length
        have hlt := hcached.lt
        omega
      · have hold := hreach.of_append hs.complete hcached.lt
        rcases List.mem_append.mp ha with ha | ha
        · exact hcached.apart a ha hold
        · obtain rfl := List.mem_singleton.mp ha
          have hlt := hold.lt hs.complete hcached.lt
          omega
  · exact hs

theorem perform_sound (hs : w.Sound rt results) (call : Call) :
    (w.perform rt repr call).2.Sound rt results := by
  cases call with
  | view v =>
    unfold World.perform
    split
    · next v' heq =>
      obtain rfl := Call.view.inj heq
      cases hm : w.materialise rt with
      | error e => exact hs
      | ok r =>
        obtain ⟨ht, hc⟩ := materialise_sound hs hm
        exact afterView_sound v ht hc
    all_goals next heq => cases heq
  | releaseCache => exact ⟨hs.inner, hs.complete, hs.returned, nofun⟩
  | len => exact hs
  | foundCount => exact hs

section Presented

variable {s : Store} {d : Entries} {entries : List (PyObj × Slot)}

/-- A lookup in an object that shows a dict fails as in the dict, or leads to what shows
the value. -/
theorem presents_lookup {f : Option Slot → Except PyErr StoredAnswer}
    {g : Option PyObj → Except PyErr Answer} (h : ShowsEntries s d entries) (key : PyObj)
    (hfg : ∀ found found', Option.Rel (Shows s) found found' →
      Presents s (f found') (.ofExcept (g found))) :
    Presents s (lookupSlot entries key >>= f) (.ofExcept (lookupItem d key >>= g)) := by
  unfold lookupItem lookupSlot
  by_cases hkey : key.hashable = true
  · rw [require_bind hkey, require_bind hkey]
    exact hfg _ _ (h.lookup key)
  · rw [require, if_neg hkey]
    rfl

/-- On an object that shows the dict a view answers as on the dict. -/
theorem answerAt_presents (v : View) {copy : Nat} (h : ShowsEntries s d entries)
    (hcopy : v = .toDict → Shows s (.dict d) (.ref copy)) :
    Presents s (v.answerAt repr entries copy) (.ofExcept (v.answer repr d)) := by
  cases v with
  | getItem key =>
    apply presents_lookup h key
    intro found found' hrel
    cases hrel with
    | some hslot => exact hslot
    | none => cases repr key <;> rfl
  | contains key =>
    apply presents_lookup h key
    intro found found' hrel
    cases hrel <;> rfl
  | get key default =>
    apply presents_lookup h key
    intro found found' hrel
    cases hrel with
    | some hslot => exact hslot
    | none => exact shows_leaf s _
  | iter => exact h.keys
  | items => exact h
  | keys => exact h.keys
  | values => exact h.values
  | toDict => exact hcopy rfl

end Presented

/-- A view leaves what the cached dict shows, and the copy of `to_dict` shows the same. -/
theorem afterView_shows (v : View) {d : Entries} {entries : List (PyObj × Slot)}
    (h : ShowsEntries w.store d entries) :
    ShowsEntries (w.afterView v entries).store d entries ∧
      (v = .toDict → Shows (w.afterView v entries).store (.dict d) (.ref w.store.length)) := by
  unfold World.afterView
  split
  · have hkept : ShowsEntries (w.store ++ [Object.dict entries]) d entries :=
      h.of_keeps fun e _ => keeps_snoc w.store _ e.2
    exact ⟨hkept, fun _ => shows_dict_ref.mpr ⟨entries, getElem?_snoc w.store _, hkept⟩⟩
  · next hv => exact ⟨h, fun hdict => absurd hdict hv⟩

/-- Any call answers as on a handle that has just been made. -/
theorem perform_presents (hs : w.Sound rt results) : w.Faithful rt repr results := by
  intro call
  cases call with
  | view v =>
    cases hm : w.materialise rt with
    | error e =>
      have hd := materialise_eq_error hm
      rw [hs.inner] at hd
      simp only [World.perform, hm, Handle.perform, Handle.materialise, fromResults, hd]
      rfl
    | ok r =>
      obtain ⟨c, t⟩ := r
      obtain ⟨ht, hc⟩ := materialise_sound hs hm
      obtain ⟨d, entries, hd, hget, hat, hentries⟩ := (ht.cached c hc).entries
      obtain ⟨hkept, hcopy⟩ := afterView_shows v hentries
      have hfresh : ((fromResults results).perform rt repr (.view v) .completes).1 =
          .ofExcept (v.answer repr d) :=
        perform_view_completes (@start_sound rt repr results).whole rfl hd
      rw [hfresh]
      simp only [World.perform, hm, hat]
      exact answerAt_presents v hkept hcopy
  | releaseCache => trivial
  | len => exact congrArg len hs.inner
  | foundCount => exact congrArg foundCount hs.inner

section Slots

variable {s : Store} {entries : List (PyObj × Slot)} {key : PyObj} {slot found : Slot}

theorem mem_of_lookupSlot (h : lookupSlot entries key = .ok (some slot)) :
    slot ∈ entries.map (·.2) := by
  obtain ⟨u, -, h⟩ := bind_eq_ok.mp h
  obtain ⟨e, he, rfl⟩ := Option.map_eq_some_iff.mp (Except.ok.inj h)
  exact List.mem_map_of_mem (List.mem_of_find?_eq_some he)

/-- A subscript leads to an object that is there. -/
theorem follow_within (hs : Complete Object.points s) {steps : List PathStep}
    (hslot : Within 0 s.length slot) (h : follow s slot steps = some found) :
    Within 0 s.length found := by
  induction steps generalizing slot with
  | nil =>
    unfold follow at h
    obtain rfl := Option.some.inj h
    exact hslot
  | cons step rest ih =>
    cases slot with
    | leaf obj =>
      rw [follow] at h
      cases h
    | ref addr =>
      cases step with
      | key key =>
        unfold follow at h
        split at h
        · next entries hget =>
          split at h
          · next next hnext =>
            exact ih (within_of_complete hs hget (mem_of_lookupSlot hnext)) h
          · cases h
        · cases h
      | index i =>
        unfold follow at h
        split at h
        · next items hget =>
          obtain ⟨next, hnext, h⟩ := Option.bind_eq_some_iff.mp h
          exact ih (within_of_complete hs hget (List.mem_of_getElem? hnext)) h
        · next items hget =>
          obtain ⟨next, hnext, h⟩ := Option.bind_eq_some_iff.mp h
          exact ih (within_of_complete hs hget (List.mem_of_getElem? hnext)) h
        · cases h

/-- An edit puts nothing in an object but the value it is given. -/
theorem editObject_slots {o o' : Object} {e : Edit Slot} (h : editObject o e = some o')
    (hslot : slot ∈ o'.slots) : slot ∈ o.slots ∨ e.value? = some slot := by
  unfold editObject at h
  split at h
  · next entries key value =>
    split at h
    · obtain rfl := Option.some.inj h
      obtain ⟨e, he, rfl⟩ := List.mem_map.mp hslot
      rcases Assoc.mem_insert he with he | ⟨f, hf, he⟩
      · exact Or.inr (congrArg some he.symm)
      · exact Or.inl (he ▸ List.mem_map_of_mem hf)
    · cases h
  · next entries key =>
    split at h
    · obtain rfl := Option.some.inj h
      obtain ⟨e, he, rfl⟩ := List.mem_map.mp hslot
      exact Or.inl (List.mem_map_of_mem (List.mem_of_mem_filter he))
    · cases h
  · next items i value =>
    split at h
    · obtain rfl := Option.some.inj h
      rcases List.mem_or_eq_of_mem_set hslot with hslot | rfl
      · exact Or.inl hslot
      · exact Or.inr rfl
    · cases h
  · next items i value =>
    obtain rfl := Option.some.inj h
    rcases List.mem_append.mp hslot with hslot | hslot
    · exact Or.inl (List.mem_of_mem_take hslot)
    · rcases List.mem_cons.mp hslot with rfl | hslot
      · exact Or.inr rfl
      · exact Or.inl (List.mem_of_mem_drop hslot)
  · next items i =>
    split at h
    · obtain rfl := Option.some.inj h
      exact Or.inl (List.mem_of_mem_eraseIdx hslot)
    · cases h
  · cases h

end Slots

variable {store : Store}

theorem World.Sound.grow (hs : w.Sound rt results) (hg : Grows w.store store) :
    ({ w with store := store } : World).Sound rt results := by
  refine ⟨hs.inner, hg.complete hs.complete, fun a ha => ?_, fun c hc => ?_⟩
  · exact Nat.lt_of_lt_of_le (hs.returned a ha) hg.length_le
  · have hcached := hs.cached c hc
    obtain ⟨d, hd, hshows⟩ := hcached.shows
    refine ⟨Nat.lt_of_lt_of_le hcached.lt hg.length_le,
      ⟨d, hd, hshows.of_keeps (hg.keeps _)⟩, fun a ha hreach => ?_⟩
    exact hcached.apart a ha (hg.reaches hs.complete hcached.lt hreach)

/-- An object that cannot be reached from the cached dict can be replaced. -/
theorem World.Sound.set {o : Object} {addr : Nat} (hs : w.Sound rt results)
    (ho : ∀ slot ∈ o.slots, Within 0 w.store.length slot)
    (hapart : ∀ c, w.cachedDict = some c → ¬ Reaches Object.points w.store c addr) :
    ({ w with store := w.store.set addr o } : World).Sound rt results := by
  have hlen : (w.store.set addr o).length = w.store.length := List.length_set
  refine ⟨hs.inner, ?_, fun a ha => ?_, fun c hc => ?_⟩
  · apply complete_set hs.complete
    intro b hb
    exact (points_within ho b hb).2
  · show a < (w.store.set addr o).length
    have hlt := hs.returned a ha
    omega
  · have hcached := hs.cached c hc
    obtain ⟨d, hd, hshows⟩ := hcached.shows
    refine ⟨?_, ⟨d, hd, hshows.of_keeps (keeps_set (hapart c hc) o)⟩, fun a ha hreach => ?_⟩
    · show c < (w.store.set addr o).length
      have hlt := hcached.lt
      omega
    · exact hcached.apart a ha (hreach.of_set (hapart c hc))

theorem resolve_within (hs : w.Sound rt results) {path : Path} {slot : Slot}
    (h : w.resolve path = some slot) : Within 0 w.store.length slot := by
  obtain ⟨addr, haddr, h⟩ := Option.bind_eq_some_iff.mp h
  refine follow_within hs.complete ?_ h
  intro a ha
  obtain rfl := Slot.ref.inj ha
  have hlt := hs.returned addr (List.mem_of_getElem? haddr)
  omega

theorem write_spec (hs : w.Sound rt results) {value : Written} {r : Slot × Store}
    (h : w.write value = some r) : Grows w.store r.2 ∧ Within 0 r.2.length r.1 := by
  cases value with
  | fresh obj =>
    obtain rfl := Option.some.inj h
    obtain ⟨hgrows, hwithin, -⟩ := place_spec obj w.store
    exact ⟨hgrows, hwithin.mono (Nat.zero_le _) (Nat.le_refl _)⟩
  | held path =>
    obtain ⟨slot, hslot, rfl⟩ := Option.map_eq_some_iff.mp h
    exact ⟨Grows.refl w.store, resolve_within hs hslot⟩

theorem resolveEdit_spec (hs : w.Sound rt results) {e : Edit Written} {r : Edit Slot × Store}
    (h : w.resolveEdit e = some r) :
    Grows w.store r.2 ∧ ∀ slot, r.1.value? = some slot → Within 0 r.2.length slot := by
  cases e with
  | setItem key value | setIndex i value | insert i value =>
    obtain ⟨v, hv, rfl⟩ := Option.map_eq_some_iff.mp h
    obtain ⟨hgrows, hwithin⟩ := write_spec hs hv
    refine ⟨hgrows, fun slot hslot => ?_⟩
    obtain rfl := Option.some.inj hslot
    exact hwithin
  | delItem key | delIndex i =>
    obtain rfl := Option.some.inj h
    exact ⟨Grows.refl w.store, nofun⟩

theorem edit_sound {t : World} {target : Path} {e : Edit Written} (hs : w.Sound rt results)
    (hapart : EditsApart w (.edit target e)) (h : w.edit target e = some t) :
    t.Sound rt results := by
  unfold World.edit at h
  split at h
  · next addr htarget =>
    obtain ⟨⟨e', store⟩, he, h⟩ := Option.bind_eq_some_iff.mp h
    obtain ⟨o, hget, h⟩ := Option.bind_eq_some_iff.mp h
    obtain ⟨o', ho', h⟩ := Option.bind_eq_some_iff.mp h
    obtain rfl := Option.some.inj h
    obtain ⟨hgrows, hvalue⟩ := resolveEdit_spec hs he
    have hgrown := hs.grow hgrows
    apply hgrown.set
    · intro slot hslot
      rcases editObject_slots ho' hslot with hslot | hslot
      · exact within_of_complete hgrown.complete hget hslot
      · exact hvalue slot hslot
    · intro c hc hreach
      exact hapart addr c htarget hc (hgrows.reaches hs.complete (hs.cached c hc).lt hreach)
  · cases h

theorem worldStep_sound {t : World} {a : Action} (hs : w.Sound rt results)
    (ha : EditsApart w a) (ht : w.step rt repr a = some t) : t.Sound rt results := by
  cases a with
  | call call =>
    obtain rfl := Option.some.inj ht
    exact perform_sound hs call
  | edit target e => exact edit_sound hs ha ht

theorem worldStart_sound (results : Results) : (World.start results).Sound rt results :=
  ⟨rfl, nofun, nofun, nofun⟩

/-- The edit is of a dict that `to_dict` returned itself. -/
def Action.AtRoot : Action → Prop
  | .call _ => True
  | .edit target _ => target.steps = []

/-- A dict that `to_dict` returned is none of the objects of the cached dict. -/
theorem editsApart_of_atRoot {a : Action} (hs : w.Sound rt results) (ha : a.AtRoot) :
    EditsApart w a := by
  cases a with
  | call call => trivial
  | edit target e =>
    obtain ⟨root, steps⟩ := target
    obtain rfl : steps = [] := ha
    intro addr c htarget hc
    obtain ⟨b, hb, h⟩ := Option.bind_eq_some_iff.mp htarget
    unfold follow at h
    obtain rfl := Slot.ref.inj (Option.some.inj h)
    exact (hs.cached c hc).apart b (List.mem_of_getElem? hb)

theorem stepsMeet_of_atRoot {as : List Action} (hs : w.Sound rt results)
    (h : ∀ a ∈ as, a.AtRoot) : Runs.StepsMeet (World.step rt repr) EditsApart w as := by
  induction as generalizing w with
  | nil => trivial
  | cons a as ih =>
    intro t ht
    obtain ⟨hhead, htail⟩ := List.forall_mem_cons.mp h
    have ha := editsApart_of_atRoot hs hhead
    exact ⟨ha, ih (worldStep_sound hs ha ht) htail⟩

/-- The handle answers as one that has just been made, all along every run that edits no
object of the cached dict. -/
theorem toDict_isolated (rt : Runtime) (repr : Repr) (results : Results) (as : List Action)
    (hapart : Runs.StepsMeet (World.step rt repr) EditsApart (World.start results) as) :
    Runs.Throughout (World.step rt repr)
      (fun w => w.inner = results ∧ w.Faithful rt repr results) (World.start results) as := by
  have hsound : Runs.Throughout (World.step rt repr) (World.Sound rt results)
      (World.start results) as :=
    Runs.throughout_of_stepsMeet (fun _ _ _ => worldStep_sound) (worldStart_sound results) hapart
  exact hsound.imp fun w hs => ⟨hs.inner, perform_presents hs⟩

/-- One found record, with `"k"` as its user key. -/
def oneUser : Results :=
  [⟨⟨"test", "a", some (.string "k"), List.replicate 20 0⟩,
    some ⟨none, [("n", .int 7)], 1, 0, List.nodup_singleton "n"⟩, some .ok, false⟩]

/-- What `to_dict` returned loses its record, and is put in what `to_dict` returns next. -/
def topLevelEdits : List Action :=
  [.call (.view .toDict), .edit ⟨0, []⟩ (.delItem (.str "k")), .call (.view .toDict),
    .edit ⟨1, []⟩ (.setItem (.str "k") (.held ⟨0, []⟩)), .call (.view (.getItem (.str "k")))]

theorem toDict_isolated_topLevelEdits :
    (Runs.run (World.step .plain someRepr) (World.start oneUser) topLevelEdits).isSome ∧
    Runs.Throughout (World.step .plain someRepr)
      (fun w => w.inner = oneUser ∧ w.Faithful .plain someRepr oneUser) (World.start oneUser)
      topLevelEdits := by
  refine ⟨rfl, toDict_isolated .plain someRepr oneUser topLevelEdits ?_⟩
  apply stepsMeet_of_atRoot (worldStart_sound oneUser)
  simp [topLevelEdits, Action.AtRoot]

/-- `d = h.to_dict(); d["k"]["n"] = 8`. -/
def nestedEdit : List Action :=
  [.call (.view .toDict), .edit ⟨0, [.key (.str "k")]⟩ (.setItem (.str "n") (.fresh (.int 8)))]

/-- The bins dict is the cache's too: `to_dict` shows the caller's 8 in the record's place. -/
theorem nestedEdit_is_shared :
    batchToDictPy .plain oneUser = .ok [(.str "k", .dict [(.str "n", .int 7)])] ∧
    (∃ w addr, Runs.run (World.step .plain someRepr) (World.start oneUser) nestedEdit = some w ∧
      (w.perform .plain someRepr (.view .toDict)).1 = .ok (.dict addr) ∧
      Shows (w.perform .plain someRepr (.view .toDict)).2.store
        (.dict [(.str "k", .dict [(.str "n", .int 8)])]) (.ref addr)) ∧
    ¬ Runs.Throughout (World.step .plain someRepr)
      (fun w => w.Faithful .plain someRepr oneUser) (World.start oneUser) nestedEdit := by
  refine ⟨rfl, ⟨_, 3, rfl, rfl, ?_⟩, fun h => ?_⟩
  · apply shows_dict_ref.mpr
    refine ⟨_, rfl, rfl, ?_, trivial⟩
    exact shows_dict_ref.mpr ⟨_, rfl, rfl, rfl, trivial⟩
  · have hlast := Runs.Throughout.last h rfl
    obtain ⟨entries, hget, hentries⟩ := shows_dict_ref.mp (hlast (.view (.getItem (.str "k"))))
    obtain rfl := Object.dict.inj (Option.some.inj hget)
    cases hentries.2.1

end AerospikePy.Batch
