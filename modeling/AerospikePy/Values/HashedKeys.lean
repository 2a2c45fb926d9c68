import AerospikePy.Values.Hashing

/-!
# Which conversions meet the panic

A conversion looks at objects and inserts keys in a fixed order, and the first of these
visits that goes wrong decides how it ends. It is as it should be exactly when, before
each key that the hash does not take, something raises.
-/

namespace AerospikePy.Values.Hashing

open AerospikePy.Core
open AerospikePy.Lib
open AerospikePy.Lib.Fallible
open AerospikePy.Python

variable (core : CoreHash) (rt : Runtime)

/-- What a conversion does one after the other: it looks at an object at a nesting level,
and it inserts a key whose entry is converted. -/
inductive Visit where
  | object (depth : Nat) (obj : PyObj)
  | insertion (key : PyObj)

mutual

def visits (depth : Nat) : PyObj → List Visit
  | .list xs => .object depth (.list xs) :: itemVisits (depth + 1) xs
  | .dict es => .object depth (.dict es) :: entryVisits (depth + 1) es
  | obj => [.object depth obj]

def itemVisits (depth : Nat) : List PyObj → List Visit
  | [] => []
  | x :: xs => visits depth x ++ itemVisits depth xs

def entryVisits (depth : Nat) : List (PyObj × PyObj) → List Visit
  | [] => []
  | (k, v) :: es => visits depth k ++ visits depth v ++ .insertion k :: entryVisits depth es

end

/-- The conversion raises here, unless it has stopped before. -/
def Fails : Visit → Prop
  | .object depth obj => maxNestingDepth < depth ∨ ¬ Storable obj
  | .insertion _ => False

/-- Core's hash does not take the value of this key. -/
def Refused (k : PyObj) : Prop := ∃ v, KeyValue k v ∧ core.hashes v = false

def checkObject (depth : Nat) (obj : PyObj) : Except Stop Unit :=
  if maxNestingDepth < depth then ending ((Values.pyToValueInner rt 0 obj).mapError .raised)
  else if obj.nests then .ok ()
  else ending ((Values.pyToValueInner rt 1 obj).mapError .raised)

def checkInsertion (k : PyObj) : Except Stop Unit :=
  match Values.pyToValueInner rt 1 k with
  | .ok v => require (core.hashes v = true) .panicked
  | .error _ => .ok ()

/-- How a visit ends. -/
def check : Visit → Except Stop Unit
  | .object depth obj => checkObject rt depth obj
  | .insertion k => checkInsertion core rt k

variable {core rt}

theorem leaf_room {room : Nat} {x : PyObj} (hx : x.nests = false) :
    Values.pyToValueInner rt (room + 1) x = Values.pyToValueInner rt 1 x := by
  cases x with
  | list | dict => cases hx
  | _ => rfl

/-- A dict key that is converted has its value whatever the room. -/
theorem key_room {room : Nat} {k : PyObj} {v : Value} (hk : k.hashable = true)
    (hv : Values.pyToValueInner rt room k = .ok v) : Values.pyToValueInner rt 1 k = .ok v := by
  cases room with
  | zero => cases hv
  | succ room => rwa [leaf_room (leaf_of_hashable hk hv)] at hv

theorem keyValue_iff {k : PyObj} {v : Value} (hk : k.hashable = true) :
    Values.pyToValueInner rt 1 k = .ok v ↔ KeyValue k v := by
  constructor
  · exact keyValue_of_hashable hk
  · intro h
    cases h with
    | int n hn => exact intToValue_eq_ok.mpr ⟨hn, rfl⟩
    | _ => rfl

theorem check_insertion {k : PyObj} (hk : k.hashable = true) {s : Stop} :
    check core rt (.insertion k) = .error s ↔ Refused core k ∧ s = .panicked := by
  show checkInsertion core rt k = .error s ↔ _
  unfold checkInsertion Refused
  cases hv : Values.pyToValueInner rt 1 k with
  | error e =>
    refine iff_of_false nofun fun h => ?_
    obtain ⟨⟨v, hkv, -⟩, -⟩ := h
    rw [(keyValue_iff hk).mpr hkv] at hv
    cases hv
  | ok v =>
    have honly : ∀ w, KeyValue k w → w = v := by
      intro w hw
      rw [(keyValue_iff hk).mpr hw] at hv
      exact Except.ok.inj hv
    by_cases hh : core.hashes v = true
    · refine iff_of_false (by simp [require, hh]) fun h => ?_
      obtain ⟨⟨w, hw, hwh⟩, -⟩ := h
      rw [honly w hw, hh] at hwh
      cases hwh
    · have hpanic : require (core.hashes v = true) Stop.panicked = .error .panicked := if_neg hh
      simp only [hpanic]
      constructor
      · intro h
        exact ⟨⟨v, (keyValue_iff hk).mp hv, Bool.eq_false_of_not_eq_true hh⟩,
          (Except.error.inj h).symm⟩
      · intro h
        rw [h.2]

theorem check_object {depth : Nat} {obj : PyObj} {s : Stop}
    (h : check core rt (.object depth obj) = .error s) :
    Fails (.object depth obj) ∧ ∃ e, s = .raised e := by
  change checkObject rt depth obj = .error s at h
  unfold checkObject at h
  split at h
  · next hdepth =>
    obtain ⟨e, -, hs⟩ := mapError_eq_error.mp (ending_eq_error.mp h)
    exact ⟨.inl hdepth, e, hs⟩
  · split at h
    · cases h
    · next hleaf =>
      obtain ⟨e, he, hs⟩ := mapError_eq_error.mp (ending_eq_error.mp h)
      refine ⟨.inr fun hst => ?_, e, hs⟩
      have haccepted : ∃ v, Values.pyToValueInner rt (0 + 1) obj = .ok v :=
        (leaf_accepted (Bool.eq_false_of_not_eq_true hleaf)).mpr hst
      obtain ⟨v, hv⟩ := haccepted
      rw [hv] at he
      cases he

theorem check_of_fails {vis : Visit} (h : Fails vis) : check core rt vis ≠ .ok () := by
  cases vis with
  | insertion => cases h
  | object depth obj =>
    intro hok
    change checkObject rt depth obj = .ok () at hok
    unfold checkObject at hok
    split at hok
    · obtain ⟨v, hv⟩ := ending_eq_ok.mp hok
      cases mapError_eq_ok.mp hv
    · next hdepth =>
      have hst := h.resolve_left hdepth
      split at hok
      · next hnests =>
        cases obj with
        | list | dict => exact hst trivial
        | _ => cases hnests
      · next hleaf =>
        obtain ⟨v, hv⟩ := ending_eq_ok.mp hok
        exact hst ((leaf_accepted (Bool.eq_false_of_not_eq_true hleaf)).mp
          ⟨v, mapError_eq_ok.mp hv⟩)

theorem checkObject_deep {depth : Nat} {obj : PyObj} (h : maxNestingDepth < depth) :
    check core rt (.object depth obj) =
      .error (.raised
        ⟨.valueError, s!"Value nesting exceeds maximum depth of {maxNestingDepth}"⟩) := by
  show checkObject rt depth obj = _
  rw [checkObject, if_pos h]
  rfl

theorem checkObject_nests {depth : Nat} {obj : PyObj} (h : depth ≤ maxNestingDepth)
    (hobj : obj.nests = true) : check core rt (.object depth obj) = .ok () := by
  show checkObject rt depth obj = _
  rw [checkObject, if_neg (Nat.not_lt.mpr h), if_pos hobj]

theorem visits_cons (depth : Nat) (x : PyObj) :
    ∃ rest, visits depth x = .object depth x :: rest := by
  cases x with
  | list xs => exact ⟨_, by rw [visits]⟩
  | dict es => exact ⟨_, by rw [visits]⟩
  | _ => exact ⟨[], by simp only [visits]⟩

/-- Items are converted one after the other. -/
theorem ending_items {xs : List PyObj} {depth : Nat} {f : PyObj → Except Stop Value}
    (h : ∀ x ∈ xs, ending (f x) = forM (visits depth x) (check core rt)) :
    ending (xs.mapM f) = forM (itemVisits depth xs) (check core rt) := by
  induction xs with
  | nil => rfl
  | cons x xs ih =>
    obtain ⟨hx, hxs⟩ := List.forall_mem_cons.mp h
    rw [List.mapM_cons, itemVisits, List.forM_append, ← hx]
    refine ending_bind fun v _ => ?_
    rw [← ih hxs]
    cases xs.mapM f <;> rfl

/-- Entries are converted and inserted one after the other. -/
theorem ending_entries {es : Entries} {depth room : Nat} {map : List (Value × Value)}
    (hhash : ∀ e ∈ es, e.1.hashable = true)
    (h : ∀ e ∈ es,
      ending (pyToValueInner core rt room e.1) = forM (visits depth e.1) (check core rt) ∧
      ending (pyToValueInner core rt room e.2) = forM (visits depth e.2) (check core rt)) :
    ending (es.foldlM (fun map e => do
      let key ← pyToValueInner core rt room e.1
      let val ← pyToValueInner core rt room e.2
      insert core map key val) map) = forM (entryVisits depth es) (check core rt) := by
  induction es generalizing map with
  | nil => rfl
  | cons e es ih =>
    obtain ⟨he, hes⟩ := List.forall_mem_cons.mp h
    obtain ⟨hk, hks⟩ := List.forall_mem_cons.mp hhash
    obtain ⟨k, v⟩ := e
    rw [List.foldlM_cons, entryVisits, List.forM_append, List.forM_append, List.forM_cons,
      ← he.1, ← he.2, bind_assoc, bind_assoc]
    refine ending_bind fun key hkey => ?_
    rw [bind_assoc]
    refine ending_bind fun val _ => ?_
    -- the key is a leaf, whose value does not depend on the room
    have hcheck : check core rt (.insertion k) = require (core.hashes key = true) .panicked := by
      show checkInsertion core rt k = _
      rw [checkInsertion, key_room hk (pyToValueInner_ok hkey)]
    rw [hcheck, insert, bind_assoc]
    cases hreq : require (core.hashes key = true) Stop.panicked with
    | error s => rfl
    | ok => exact ih hks hes

/-- A conversion ends as its visits do, one after the other. -/
theorem ending_pyToValueInner {room depth : Nat} (hroom : depth + room = maxNestingDepth + 1)
    {x : PyObj} (hwf : x.wellFormed = true) :
    ending (pyToValueInner core rt room x) = forM (visits depth x) (check core rt) := by
  induction room generalizing depth x with
  | zero =>
    obtain ⟨rest, hrest⟩ := visits_cons depth x
    rw [hrest, List.forM_cons, checkObject_deep (by omega)]
    rfl
  | succ room ih =>
    have hdepth : depth ≤ maxNestingDepth := by omega
    have hdown : depth + 1 + room = maxNestingDepth + 1 := by omega
    cases hx : x.nests with
    | true =>
      cases x with
      | list xs =>
        have hxs := wellFormed_list.mp hwf
        rw [visits, List.forM_cons, checkObject_nests hdepth rfl, ok_bind,
          ← ending_items fun x hx => ih hdown (hxs x hx), pyToValueInner]
        cases xs.mapM (pyToValueInner core rt room) <;> rfl
      | dict es =>
        obtain ⟨hhash, -, hwfs⟩ := wellFormed_dict.mp hwf
        rw [visits, List.forM_cons, checkObject_nests hdepth rfl, ok_bind,
          ← ending_entries hhash fun e he => ⟨ih hdown (hwfs e he).1, ih hdown (hwfs e he).2⟩,
          pyToValueInner, ending, bind_assoc]
        rfl
      | _ => cases hx
    | false =>
      have hvisits : visits depth x = [.object depth x] := by
        cases x with
        | list | dict => cases hx
        | _ => simp only [visits]
      have hinner : pyToValueInner core rt (room + 1) x =
          (Values.pyToValueInner rt 1 x).mapError .raised := by
        rw [pyToValueInner_leaf hx, leaf_room hx]
      have hcheck : check core rt (.object depth x) =
          ending ((Values.pyToValueInner rt 1 x).mapError .raised) := by
        show checkObject rt depth x = _
        rw [checkObject, if_neg (Nat.not_lt.mpr hdepth), if_neg (by simp [hx])]
      rw [hvisits, hinner, List.forM_cons, hcheck, List.forM_nil]
      cases Values.pyToValueInner rt 1 x <;> rfl

mutual

/-- The objects that are looked at are those within, at their levels. -/
theorem occursAt_of_mem_visits {depth n : Nat} {y : PyObj} :
    ∀ x : PyObj, .object n y ∈ visits depth x → ∃ m, n = depth + m ∧ OccursAt m x y
  | .list xs, h => by
    rw [visits, List.mem_cons] at h
    rcases h with h | h
    · cases h
      exact ⟨0, rfl, .here _⟩
    · obtain ⟨m, x, hn, hx, hy⟩ := occursAt_of_mem_itemVisits xs h
      exact ⟨m + 1, by omega, .item hx hy⟩
  | .dict es, h => by
    rw [visits, List.mem_cons] at h
    rcases h with h | h
    · cases h
      exact ⟨0, rfl, .here _⟩
    · obtain ⟨m, e, hn, he, hy⟩ := occursAt_of_mem_entryVisits es h
      refine ⟨m + 1, by omega, ?_⟩
      rcases hy with hy | hy
      · exact .key he hy
      · exact .value he hy
  | .none, h | .bool _, h | .int _, h | .float _, h | .str _, h | .bytes _, h | .bytearray _, h
  | .tuple _, h | .other _, h => by
    simp only [visits, List.mem_singleton, Visit.object.injEq] at h
    obtain ⟨rfl, rfl⟩ := h
    exact ⟨0, rfl, .here _⟩

theorem occursAt_of_mem_itemVisits {depth n : Nat} {y : PyObj} :
    ∀ xs : List PyObj, .object n y ∈ itemVisits depth xs →
      ∃ m x, n = depth + m ∧ x ∈ xs ∧ OccursAt m x y
  | [], h => by simp [itemVisits] at h
  | x :: xs, h => by
    rw [itemVisits, List.mem_append] at h
    rcases h with h | h
    · obtain ⟨m, hn, hy⟩ := occursAt_of_mem_visits x h
      exact ⟨m, x, hn, List.mem_cons_self, hy⟩
    · obtain ⟨m, z, hn, hz, hy⟩ := occursAt_of_mem_itemVisits xs h
      exact ⟨m, z, hn, List.mem_cons_of_mem x hz, hy⟩

theorem occursAt_of_mem_entryVisits {depth n : Nat} {y : PyObj} :
    ∀ es : List (PyObj × PyObj), .object n y ∈ entryVisits depth es →
      ∃ m e, n = depth + m ∧ e ∈ es ∧ (OccursAt m e.1 y ∨ OccursAt m e.2 y)
  | [], h => by simp [entryVisits] at h
  | (k, v) :: es, h => by
    rw [entryVisits, List.mem_append, List.mem_append, List.mem_cons] at h
    rcases h with (h | h) | h | h
    · obtain ⟨m, hn, hy⟩ := occursAt_of_mem_visits k h
      exact ⟨m, (k, v), hn, List.mem_cons_self, .inl hy⟩
    · obtain ⟨m, hn, hy⟩ := occursAt_of_mem_visits v h
      exact ⟨m, (k, v), hn, List.mem_cons_self, .inr hy⟩
    · cases h
    · obtain ⟨m, e, hn, he, hy⟩ := occursAt_of_mem_entryVisits es h
      exact ⟨m, e, hn, List.mem_cons_of_mem (k, v) he, hy⟩

end

mutual

theorem hashable_of_mem_visits {depth : Nat} {k : PyObj} :
    ∀ x : PyObj, x.wellFormed = true → .insertion k ∈ visits depth x → k.hashable = true
  | .list xs, hwf, h => by
    rw [visits, List.mem_cons] at h
    exact hashable_of_mem_itemVisits xs (wellFormed_list.mp hwf) (h.resolve_left nofun)
  | .dict es, hwf, h => by
    rw [visits, List.mem_cons] at h
    obtain ⟨hhash, -, hwfs⟩ := wellFormed_dict.mp hwf
    exact hashable_of_mem_entryVisits es hhash hwfs (h.resolve_left nofun)
  | .none, _, h | .bool _, _, h | .int _, _, h | .float _, _, h | .str _, _, h | .bytes _, _, h
  | .bytearray _, _, h | .tuple _, _, h | .other _, _, h => by simp [visits] at h

theorem hashable_of_mem_itemVisits {depth : Nat} {k : PyObj} :
    ∀ xs : List PyObj, (∀ x ∈ xs, x.wellFormed = true) →
      .insertion k ∈ itemVisits depth xs → k.hashable = true
  | [], _, h => by simp [itemVisits] at h
  | x :: xs, hwf, h => by
    obtain ⟨hx, hxs⟩ := List.forall_mem_cons.mp hwf
    rw [itemVisits, List.mem_append] at h
    rcases h with h | h
    · exact hashable_of_mem_visits x hx h
    · exact hashable_of_mem_itemVisits xs hxs h

theorem hashable_of_mem_entryVisits {depth : Nat} {k : PyObj} :
    ∀ es : List (PyObj × PyObj), (∀ e ∈ es, e.1.hashable = true) →
      (∀ e ∈ es, e.1.wellFormed = true ∧ e.2.wellFormed = true) →
      .insertion k ∈ entryVisits depth es → k.hashable = true
  | [], _, _, h => by simp [entryVisits] at h
  | (l, v) :: es, hhash, hwf, h => by
    obtain ⟨hl, hes⟩ := List.forall_mem_cons.mp hhash
    obtain ⟨⟨hwl, hwv⟩, hwes⟩ := List.forall_mem_cons.mp hwf
    rw [entryVisits, List.mem_append, List.mem_append, List.mem_cons] at h
    rcases h with (h | h) | h | h
    · exact hashable_of_mem_visits l hwl h
    · exact hashable_of_mem_visits v hwv h
    · cases h
      exact hl
    · exact hashable_of_mem_entryVisits es hes hwes h

end

/-- What is asked of the conversion of an object: it accepts the storable objects within
the bound and no others, rejects with an exception, and what is exact comes back equal. -/
structure Converted (core : CoreHash) (rt : Runtime) (x : PyObj) : Prop where
  accepts : (∃ v, pyToValue core rt x = .ok v) ↔
    ∀ n y, OccursAt n x y → n ≤ maxNestingDepth ∧ Storable y
  rejects : ∀ s, pyToValue core rt x = .error s → ∃ e, s = .raised e
  returns : (∀ n y, OccursAt n x y → Exact y) → ∀ v, pyToValue core rt x = .ok v →
    ∃ y, valueToPy rt v = .ok y ∧ pyEq y x = true

/-- The hash is never asked for a key that it does not take: the conversion has raised
before each such key. -/
def Spared (core : CoreHash) (x : PyObj) : Prop :=
  ∀ pre k post, visits 0 x = pre ++ .insertion k :: post → Refused core k → ∃ vis ∈ pre, Fails vis

theorem ending_pyToValue {x : PyObj} (hwf : x.wellFormed = true) :
    ending (pyToValue core rt x) = forM (visits 0 x) (check core rt) :=
  ending_pyToValueInner (Nat.zero_add _) hwf

/-- What raises is an object that is not storable, or too deep. -/
theorem exists_fails {x : PyObj} (hwf : x.wellFormed = true) {e : PyErr}
    (h : pyToValue core rt x = .error (.raised e)) :
    ∃ pre vis post, visits 0 x = pre ++ vis :: post ∧ (∀ b ∈ pre, check core rt b = .ok ()) ∧
      Fails vis := by
  obtain ⟨pre, vis, post, hsplit, hpre, hvis⟩ :=
    forM_eq_error.mp ((ending_pyToValue hwf).symm.trans (ending_eq_error.mpr h))
  refine ⟨pre, vis, post, hsplit, hpre, ?_⟩
  cases vis with
  | object depth obj => exact (check_object hvis).1
  | insertion k =>
    have hk := hashable_of_mem_visits x hwf (hsplit ▸ List.mem_append_right _ List.mem_cons_self)
    cases ((check_insertion hk).mp hvis).2

/-- Two ways to split a list: one of the two elements comes first, unless they are one. -/
theorem mem_or_eq_or_mem_of_split {α : Type} {pre pre' post post' : List α} {a b : α}
    (h : pre ++ a :: post = pre' ++ b :: post') : b ∈ pre ∨ a = b ∨ a ∈ pre' := by
  induction pre generalizing pre' with
  | nil =>
    cases pre' with
    | nil => exact .inr (.inl (List.cons.inj h).1)
    | cons c pre' =>
      rw [(List.cons.inj h).1]
      exact .inr (.inr List.mem_cons_self)
  | cons c pre ih =>
    cases pre' with
    | nil =>
      rw [(List.cons.inj h).1]
      exact .inl List.mem_cons_self
    | cons d pre' =>
      rcases ih (List.cons.inj h).2 with hb | hab | ha
      · exact .inl (List.mem_cons_of_mem c hb)
      · exact .inr (.inl hab)
      · exact .inr (.inr (List.mem_cons_of_mem d ha))

theorem panicked_iff {x : PyObj} (hwf : x.wellFormed = true) :
    pyToValue core rt x = .error .panicked ↔ ¬ Spared core x := by
  have hkeys : ∀ {pre k post}, visits 0 x = pre ++ .insertion k :: post → k.hashable = true :=
    fun h => hashable_of_mem_visits x hwf (h ▸ List.mem_append_right _ List.mem_cons_self)
  constructor
  · intro h hspared
    obtain ⟨pre, vis, post, hsplit, hpre, hvis⟩ :=
      forM_eq_error.mp ((ending_pyToValue hwf).symm.trans (ending_eq_error.mpr h))
    cases vis with
    | object depth obj =>
      obtain ⟨-, e, hs⟩ := check_object hvis
      cases hs
    | insertion k =>
      have hrefused := ((check_insertion (hkeys hsplit)).mp hvis).1
      obtain ⟨b, hb, hfails⟩ := hspared pre k post hsplit hrefused
      exact check_of_fails hfails (hpre b hb)
  · intro h
    simp only [Spared, not_forall] at h
    obtain ⟨pre, k, post, hsplit, hrefused, hnone⟩ := h
    have hpanics : check core rt (.insertion k) = .error .panicked :=
      (check_insertion (hkeys hsplit)).mpr ⟨hrefused, rfl⟩
    cases hx : pyToValue core rt x with
    | ok v =>
      have hall := forM_eq_ok.mp ((ending_pyToValue hwf).symm.trans (ending_eq_ok.mpr ⟨v, hx⟩))
      rw [hall (.insertion k) (hsplit ▸ List.mem_append_right _ List.mem_cons_self)] at hpanics
      cases hpanics
    | error s =>
      cases s with
      | panicked => rfl
      | raised e =>
        -- the visit that raises is after the insertion, where the panic came first
        obtain ⟨pre', vis, post', hsplit', hpre', hfails⟩ := exists_fails hwf hx
        rcases mem_or_eq_or_mem_of_split (hsplit.symm.trans hsplit') with hin | rfl | hin
        · exact absurd ⟨vis, hin, hfails⟩ hnone
        · cases hfails
        · rw [hpre' _ hin] at hpanics
          cases hpanics

/-- The conversion is as it should be exactly when no key is given to the hash that the
hash does not take. -/
theorem converted_iff (core : CoreHash) (rt : Runtime) (x : PyObj) (hwf : x.wellFormed = true) :
    Converted core rt x ↔ Spared core x := by
  have hpanicked : pyToValue core rt x = .error .panicked ↔ ¬ Spared core x := panicked_iff hwf
  rw [← not_iff_not, ← hpanicked]
  constructor
  · intro h
    refine not_not.mp fun hnot => h ⟨?_, ?_, ?_⟩
    · constructor
      · intro hv
        obtain ⟨v, hv⟩ := hv
        have hacc := accepted_iff.mp ⟨v, pyToValueInner_ok hv⟩
        exact fun n y hy => ⟨Nat.le_of_lt_succ (hacc n y hy).1, (hacc n y hy).2⟩
      · intro hall
        cases hx : pyToValue core rt x with
        | ok v => exact ⟨v, rfl⟩
        | error s =>
          cases s with
          | panicked => exact absurd hx hnot
          | raised e =>
            obtain ⟨pre, vis, post, hsplit, -, hfails⟩ := exists_fails hwf hx
            cases vis with
            | insertion => cases hfails
            | object n y =>
              obtain ⟨m, hm, hy⟩ := occursAt_of_mem_visits x
                (hsplit ▸ List.mem_append_right _ List.mem_cons_self)
              obtain ⟨hlevel, hstorable⟩ := hall m y hy
              rcases hfails with hdeep | hbad
              · omega
              · exact absurd hstorable hbad
    · intro s hs
      cases s with
      | raised e => exact ⟨e, rfl⟩
      | panicked => exact absurd hs hnot
    · intro hexact v hv
      exact roundTrip hwf hexact (pyToValueInner_ok hv)
  · intro h hconv
    obtain ⟨e, he⟩ := hconv.rejects _ h
    cases he

theorem spared_of_keys {x : PyObj} (h : ∀ k, .insertion k ∈ visits 0 x → ¬ Refused core k) :
    Spared core x := by
  intro pre k post hsplit hrefused
  exact absurd hrefused (h k (hsplit ▸ List.mem_append_right _ List.mem_cons_self))

/-- `{"a": [1, {None: b"\x01"}], 7: True}`. -/
theorem converted_iff_nested :
    Converted .pinned .plain (.dict [(.str "a", .list [.int 1, .dict [(.none, .bytes [1])]]),
      (.int 7, .bool true)]) := by
  refine (converted_iff .pinned .plain _ (by decide)).mpr (spared_of_keys fun k hk hrefused => ?_)
  obtain ⟨v, hv, hhash⟩ := hrefused
  simp only [visits, entryVisits, itemVisits, List.mem_cons, List.mem_append, List.not_mem_nil,
    Visit.insertion.injEq, reduceCtorEq, or_false, false_or] at hk
  rcases hk with rfl | rfl | rfl
  · cases hv
    cases hhash
  · cases hv
    cases hhash
  · cases hv
    cases hhash

/-- `{1.5: 1}` is made of what is accepted, within the bound, and its conversion panics. -/
theorem float_key_panics :
    ∃ x : PyObj, x = .dict [(.float ⟨0x3FF8000000000000⟩, .int 1)] ∧ x.wellFormed = true ∧
      (∀ n y, OccursAt n x y → n ≤ maxNestingDepth ∧ Storable y) ∧
      pyToValue .pinned .plain x = .error .panicked ∧ ¬ Converted .pinned .plain x := by
  have hpanic : pyToValue .pinned .plain (.dict [(.float ⟨0x3FF8000000000000⟩, .int 1)]) =
      .error .panicked := rfl
  refine ⟨_, rfl, by decide, ?_, hpanic, fun h => ?_⟩
  · refine forall_occursAt_dict.mpr ⟨⟨by decide, trivial⟩, List.forall_mem_singleton.mpr ⟨?_, ?_⟩⟩
    · exact (forall_occursAt_leaf rfl).mpr ⟨by decide, trivial⟩
    · exact (forall_occursAt_leaf rfl).mpr ⟨by decide, by decide, by decide⟩
  · obtain ⟨e, he⟩ := h.rejects _ hpanic
    cases he

/-- Where the hash is spared, the conversion is the one that hashes every key. -/
theorem pyToValue_of_spared {x : PyObj} (hwf : x.wellFormed = true) (hx : Spared core x) :
    pyToValue core rt x = (Values.pyToValue rt x).mapError .raised := by
  cases h : pyToValue core rt x with
  | ok v => exact (mapError_eq_ok.mpr (pyToValueInner_ok h)).symm
  | error s =>
    cases s with
    | raised e => exact (mapError_eq_error.mpr ⟨e, pyToValueInner_raised h, rfl⟩).symm
    | panicked => exact absurd hx ((panicked_iff hwf).mp h)

end AerospikePy.Values.Hashing
