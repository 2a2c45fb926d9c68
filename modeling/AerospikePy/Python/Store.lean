import AerospikePy.Lib.ObjectGraph
import AerospikePy.Python.Object

/-!
# Objects with an identity

Lists, tuples and dicts in a store, where several of them may hold the same object. An
object that has no parts is its value. `place` makes the objects of a value anew, and
`Shows` tells which value the objects make up.
-/

namespace AerospikePy.Python

open AerospikePy.Lib
open AerospikePy.Lib.ObjectGraph

/-- What a list or a dict holds: an object that is not in the store, or an address. -/
inductive Slot where
  | leaf (obj : PyObj)
  | ref (addr : Nat)

/-- The keys of a dict are hashable and hence immutable. -/
inductive Object where
  | list (items : List Slot)
  | tuple (items : List Slot)
  | dict (entries : List (PyObj × Slot))

abbrev Store := List Object

def Slot.addrs : Slot → List Nat
  | leaf _ => []
  | ref addr => [addr]

def Object.slots : Object → List Slot
  | list items | tuple items => items
  | dict entries => entries.map (·.2)

def Object.points (o : Object) : List Nat := o.slots.flatMap Slot.addrs

theorem Object.mem_points {o : Object} {a : Nat} : a ∈ o.points ↔ .ref a ∈ o.slots := by
  rw [points, List.mem_flatMap]
  constructor
  · intro h
    obtain ⟨slot, hslot, ha⟩ := h
    cases slot with
    | leaf obj => cases ha
    | ref addr =>
      obtain rfl := List.mem_singleton.mp ha
      exact hslot
  · intro h
    exact ⟨.ref a, h, List.mem_singleton.mpr rfl⟩

mutual

/-- The parts of an object are made before it. -/
def place : PyObj → Store → Slot × Store
  | .list xs, s =>
    let (items, s) := placeAll xs s
    (.ref s.length, s ++ [.list items])
  | .tuple xs, s =>
    let (items, s) := placeAll xs s
    (.ref s.length, s ++ [.tuple items])
  | .dict es, s =>
    let (entries, s) := placeEntries es s
    (.ref s.length, s ++ [.dict entries])
  | obj, s => (.leaf obj, s)

def placeAll : List PyObj → Store → List Slot × Store
  | [], s => ([], s)
  | x :: xs, s =>
    let (slot, s) := place x s
    let (slots, s) := placeAll xs s
    (slot :: slots, s)

def placeEntries : List (PyObj × PyObj) → Store → List (PyObj × Slot) × Store
  | [], s => ([], s)
  | (k, v) :: es, s =>
    let (slot, s) := place v s
    let (entries, s) := placeEntries es s
    ((k, slot) :: entries, s)

end

mutual

/-- The value that is found by following the addresses. -/
def Shows (s : Store) : PyObj → Slot → Prop
  | .list xs, slot => slot = .leaf (.list xs) ∨
    ∃ a items, slot = .ref a ∧ s[a]? = some (.list items) ∧ ShowsAll s xs items
  | .tuple xs, slot => slot = .leaf (.tuple xs) ∨
    ∃ a items, slot = .ref a ∧ s[a]? = some (.tuple items) ∧ ShowsAll s xs items
  | .dict es, slot => slot = .leaf (.dict es) ∨
    ∃ a entries, slot = .ref a ∧ s[a]? = some (.dict entries) ∧ ShowsEntries s es entries
  | obj, slot => slot = .leaf obj

def ShowsAll (s : Store) : List PyObj → List Slot → Prop
  | [], [] => True
  | x :: xs, slot :: slots => Shows s x slot ∧ ShowsAll s xs slots
  | _, _ => False

def ShowsEntries (s : Store) : List (PyObj × PyObj) → List (PyObj × Slot) → Prop
  | [], [] => True
  | (k, v) :: es, (k', slot) :: entries => k' = k ∧ Shows s v slot ∧ ShowsEntries s es entries
  | _, _ => False

end

section Parts

variable {s : Store}

/-- An object that is not in the store is its own value. -/
theorem shows_leaf (s : Store) (obj : PyObj) : Shows s obj (.leaf obj) := by
  cases obj with
  | list | tuple | dict =>
    rw [Shows]
    exact Or.inl rfl
  | _ => rfl

theorem showsEntries_cons {es : List (PyObj × PyObj)} {entries : List (PyObj × Slot)}
    {e : PyObj × PyObj} : ShowsEntries s (e :: es) entries ↔ ∃ slot rest,
      entries = (e.1, slot) :: rest ∧ Shows s e.2 slot ∧ ShowsEntries s es rest := by
  obtain ⟨k, v⟩ := e
  cases entries with
  | nil =>
    refine iff_of_false (fun h => h) ?_
    intro h
    obtain ⟨_, _, heq, -⟩ := h
    cases heq
  | cons e' entries =>
    obtain ⟨k', slot⟩ := e'
    rw [ShowsEntries]
    constructor
    · intro h
      obtain ⟨rfl, hslot, hrest⟩ := h
      exact ⟨slot, entries, rfl, hslot, hrest⟩
    · intro h
      obtain ⟨slot', rest, heq, hslot, hrest⟩ := h
      obtain ⟨hhead, rfl⟩ := List.cons.inj heq
      obtain ⟨rfl, rfl⟩ := Prod.mk.inj hhead
      exact ⟨rfl, hslot, hrest⟩

/-- The keys of a dict are found in its object, at slots that show their values. -/
theorem ShowsEntries.lookup {es : List (PyObj × PyObj)} {entries : List (PyObj × Slot)}
    (h : ShowsEntries s es entries) (key : PyObj) :
    Option.Rel (Shows s) (Assoc.lookup pyEq es key) (Assoc.lookup pyEq entries key) := by
  induction es generalizing entries with
  | nil =>
    cases entries with
    | nil => exact .none
    | cons e entries => cases h
  | cons e es ih =>
    obtain ⟨slot, rest, rfl, hslot, hrest⟩ := showsEntries_cons.mp h
    rw [Assoc.lookup_cons, Assoc.lookup_cons]
    by_cases hkey : pyEq e.1 key = true
    · rw [if_pos hkey, if_pos hkey]
      exact .some hslot
    · rw [if_neg hkey, if_neg hkey]
      exact ih hrest

theorem ShowsEntries.values {es : List (PyObj × PyObj)} {entries : List (PyObj × Slot)}
    (h : ShowsEntries s es entries) : ShowsAll s (es.map (·.2)) (entries.map (·.2)) := by
  induction es generalizing entries with
  | nil =>
    cases entries with
    | nil => trivial
    | cons e entries => cases h
  | cons e es ih =>
    obtain ⟨slot, rest, rfl, hslot, hrest⟩ := showsEntries_cons.mp h
    exact ⟨hslot, ih hrest⟩

theorem ShowsEntries.keys {es : List (PyObj × PyObj)} {entries : List (PyObj × Slot)}
    (h : ShowsEntries s es entries) :
    ShowsAll s (es.map (·.1)) (entries.map fun e => .leaf e.1) := by
  induction es generalizing entries with
  | nil =>
    cases entries with
    | nil => trivial
    | cons e entries => cases h
  | cons e es ih =>
    obtain ⟨slot, rest, rfl, hslot, hrest⟩ := showsEntries_cons.mp h
    exact ⟨shows_leaf s e.1, ih hrest⟩

theorem shows_dict_ref {es : List (PyObj × PyObj)} {a : Nat} :
    Shows s (.dict es) (.ref a) ↔
      ∃ entries, s[a]? = some (.dict entries) ∧ ShowsEntries s es entries := by
  rw [Shows]
  constructor
  · intro h
    rcases h with h | ⟨b, entries, hb, hget, hentries⟩
    · cases h
    · obtain rfl := Slot.ref.inj hb
      exact ⟨entries, hget, hentries⟩
  · intro h
    obtain ⟨entries, hget, hentries⟩ := h
    exact Or.inr ⟨a, entries, rfl, hget, hentries⟩

end Parts

/-- Whatever a slot leads to in `s` is the same in `t`. -/
def Keeps (s t : Store) (slot : Slot) : Prop :=
  ∀ a b o, slot = .ref a → Reaches Object.points s a b → s[b]? = some o → t[b]? = some o

section Frame

variable {s t : Store}

theorem Keeps.here {a : Nat} {o : Object} (h : Keeps s t (.ref a)) (ha : s[a]? = some o) :
    t[a]? = some o := h a a o rfl (.here a) ha

/-- What is kept of an object is kept of its parts. -/
theorem Keeps.part {a : Nat} {o : Object} {slot : Slot} (h : Keeps s t (.ref a))
    (ha : s[a]? = some o) (hslot : slot ∈ o.slots) : Keeps s t slot := by
  intro b c o' hb hc hget
  subst hb
  exact h a c o' rfl (.through ha (Object.mem_points.mpr hslot) hc) hget

mutual

/-- A value is shown as long as the objects that it is made of are kept. -/
theorem Shows.of_keeps {obj : PyObj} {slot : Slot} (hkeeps : Keeps s t slot)
    (h : Shows s obj slot) : Shows t obj slot := by
  cases obj with
  | list xs =>
    rw [Shows] at h ⊢
    rcases h with h | ⟨a, items, rfl, ha, hitems⟩
    · exact Or.inl h
    · exact Or.inr ⟨a, items, rfl, hkeeps.here ha,
        ShowsAll.of_keeps (fun slot hslot => hkeeps.part ha hslot) hitems⟩
  | tuple xs =>
    rw [Shows] at h ⊢
    rcases h with h | ⟨a, items, rfl, ha, hitems⟩
    · exact Or.inl h
    · exact Or.inr ⟨a, items, rfl, hkeeps.here ha,
        ShowsAll.of_keeps (fun slot hslot => hkeeps.part ha hslot) hitems⟩
  | dict es =>
    rw [Shows] at h ⊢
    rcases h with h | ⟨a, entries, rfl, ha, hentries⟩
    · exact Or.inl h
    · exact Or.inr ⟨a, entries, rfl, hkeeps.here ha,
        ShowsEntries.of_keeps (fun e he => hkeeps.part ha (List.mem_map_of_mem he)) hentries⟩
  | none | bool | int | float | str | bytes | bytearray | other => exact h

theorem ShowsAll.of_keeps {xs : List PyObj} {slots : List Slot}
    (hkeeps : ∀ slot ∈ slots, Keeps s t slot) (h : ShowsAll s xs slots) : ShowsAll t xs slots := by
  cases xs with
  | nil => cases slots <;> exact h
  | cons x xs =>
    cases slots with
    | nil => exact h
    | cons slot slots =>
      obtain ⟨hhead, htail⟩ := List.forall_mem_cons.mp hkeeps
      exact ⟨Shows.of_keeps hhead h.1, ShowsAll.of_keeps htail h.2⟩

theorem ShowsEntries.of_keeps {es : List (PyObj × PyObj)} {entries : List (PyObj × Slot)}
    (hkeeps : ∀ e ∈ entries, Keeps s t e.2) (h : ShowsEntries s es entries) :
    ShowsEntries t es entries := by
  cases es with
  | nil => cases entries <;> exact h
  | cons e es =>
    cases entries with
    | nil => exact h
    | cons e' entries =>
      obtain ⟨hhead, htail⟩ := List.forall_mem_cons.mp hkeeps
      exact ⟨h.1, Shows.of_keeps hhead h.2.1, ShowsEntries.of_keeps htail h.2.2⟩

end

end Frame

/-- The objects that `t` adds to `s` point at each other only. -/
def Grows (s t : Store) : Prop :=
  ∃ new, t = s ++ new ∧ ∀ o ∈ new, ∀ b ∈ o.points, s.length ≤ b ∧ b < t.length

/-- The slot leads to one of these addresses, if it leads to any. -/
def Within (lo hi : Nat) (slot : Slot) : Prop := ∀ a, slot = .ref a → lo ≤ a ∧ a < hi

section Place

variable {s t u : Store} {lo hi : Nat}

theorem Within.mono {lo' hi' : Nat} {slot : Slot} (h : Within lo hi slot) (hlo : lo' ≤ lo)
    (hhi : hi ≤ hi') : Within lo' hi' slot := by
  intro a ha
  have hbounds := h a ha
  omega

theorem points_within {o : Object} (h : ∀ slot ∈ o.slots, Within lo hi slot) :
    ∀ b ∈ o.points, lo ≤ b ∧ b < hi := by
  intro b hb
  exact h _ (Object.mem_points.mp hb) b rfl

theorem Grows.refl (s : Store) : Grows s s := ⟨[], (List.append_nil s).symm, nofun⟩

theorem Grows.length_le (h : Grows s t) : s.length ≤ t.length := by
  obtain ⟨new, rfl, -⟩ := h
  rw [List.length_append]
  omega

theorem Grows.trans (hst : Grows s t) (htu : Grows t u) : Grows s u := by
  have hle := hst.length_le
  have hle' := htu.length_le
  obtain ⟨new, rfl, hnew⟩ := hst
  obtain ⟨new', rfl, hnew'⟩ := htu
  refine ⟨new ++ new', List.append_assoc s new new', ?_⟩
  intro o ho b hb
  rcases List.mem_append.mp ho with ho | ho
  · have hbounds := hnew o ho b hb
    omega
  · have hbounds := hnew' o ho b hb
    omega

theorem Grows.snoc {o : Object} (h : Grows s t)
    (ho : ∀ slot ∈ o.slots, Within s.length t.length slot) : Grows s (t ++ [o]) := by
  obtain ⟨new, rfl, hnew⟩ := h
  refine ⟨new ++ [o], List.append_assoc s new [o], ?_⟩
  intro o' ho' b hb
  have hlen : (s ++ new ++ [o]).length = (s ++ new).length + 1 := List.length_append
  rcases List.mem_append.mp ho' with ho' | ho'
  · have hbounds := hnew o' ho' b hb
    omega
  · obtain rfl := List.mem_singleton.mp ho'
    have hbounds := points_within ho b hb
    omega

theorem Grows.keeps (h : Grows s t) (slot : Slot) : Keeps s t slot := by
  obtain ⟨new, rfl, -⟩ := h
  intro a b o _ _ hget
  have hlt := (List.getElem?_eq_some_iff.mp hget).1
  rw [List.getElem?_append_left hlt]
  exact hget

theorem keeps_snoc (s : Store) (o : Object) (slot : Slot) : Keeps s (s ++ [o]) slot := by
  intro a b o' _ _ hget
  have hlt := (List.getElem?_eq_some_iff.mp hget).1
  rw [List.getElem?_append_left hlt]
  exact hget

theorem getElem?_snoc (s : Store) (o : Object) : (s ++ [o])[s.length]? = some o := by
  rw [List.getElem?_append_right (Nat.le_refl _), Nat.sub_self]
  rfl

theorem within_snoc {o : Object} (h : Grows s t) :
    Within s.length (t ++ [o]).length (.ref t.length) := by
  intro a ha
  obtain rfl := Slot.ref.inj ha
  have hle := h.length_le
  rw [List.length_append, List.length_singleton]
  omega

mutual

/-- The objects that are made for a value are new, and show it. -/
theorem place_spec (obj : PyObj) (s : Store) :
    Grows s (place obj s).2 ∧ Within s.length (place obj s).2.length (place obj s).1 ∧
      Shows (place obj s).2 obj (place obj s).1 := by
  cases obj with
  | list xs =>
    obtain ⟨hgrows, hwithin, hshows⟩ := placeAll_spec xs s
    simp only [place, Shows]
    exact ⟨hgrows.snoc hwithin, within_snoc hgrows, Or.inr ⟨_, _, rfl, getElem?_snoc _ _,
      hshows.of_keeps fun slot _ => keeps_snoc _ _ slot⟩⟩
  | tuple xs =>
    obtain ⟨hgrows, hwithin, hshows⟩ := placeAll_spec xs s
    simp only [place, Shows]
    exact ⟨hgrows.snoc hwithin, within_snoc hgrows, Or.inr ⟨_, _, rfl, getElem?_snoc _ _,
      hshows.of_keeps fun slot _ => keeps_snoc _ _ slot⟩⟩
  | dict es =>
    obtain ⟨hgrows, hwithin, hshows⟩ := placeEntries_spec es s
    simp only [place, Shows]
    refine ⟨hgrows.snoc ?_, within_snoc hgrows, Or.inr ⟨_, _, rfl, getElem?_snoc _ _,
      hshows.of_keeps fun e _ => keeps_snoc _ _ e.2⟩⟩
    intro slot hslot
    obtain ⟨e, he, rfl⟩ := List.mem_map.mp hslot
    exact hwithin e he
  | none | bool | int | float | str | bytes | bytearray | other =>
    exact ⟨Grows.refl s, nofun, rfl⟩

theorem placeAll_spec (xs : List PyObj) (s : Store) :
    Grows s (placeAll xs s).2 ∧
      (∀ slot ∈ (placeAll xs s).1, Within s.length (placeAll xs s).2.length slot) ∧
      ShowsAll (placeAll xs s).2 xs (placeAll xs s).1 := by
  cases xs with
  | nil => exact ⟨Grows.refl s, nofun, trivial⟩
  | cons x xs =>
    obtain ⟨hgrows, hwithin, hshows⟩ := place_spec x s
    obtain ⟨hgrows', hwithin', hshows'⟩ := placeAll_spec xs (place x s).2
    simp only [placeAll, ShowsAll]
    refine ⟨hgrows.trans hgrows', ?_, hshows.of_keeps (hgrows'.keeps _), hshows'⟩
    refine List.forall_mem_cons.mpr
      ⟨hwithin.mono (Nat.le_refl _) hgrows'.length_le, fun slot hslot => ?_⟩
    exact (hwithin' slot hslot).mono hgrows.length_le (Nat.le_refl _)

theorem placeEntries_spec (es : List (PyObj × PyObj)) (s : Store) :
    Grows s (placeEntries es s).2 ∧
      (∀ e ∈ (placeEntries es s).1, Within s.length (placeEntries es s).2.length e.2) ∧
      ShowsEntries (placeEntries es s).2 es (placeEntries es s).1 := by
  cases es with
  | nil => exact ⟨Grows.refl s, nofun, trivial⟩
  | cons e es =>
    obtain ⟨k, v⟩ := e
    obtain ⟨hgrows, hwithin, hshows⟩ := place_spec v s
    obtain ⟨hgrows', hwithin', hshows'⟩ := placeEntries_spec es (place v s).2
    simp only [placeEntries, ShowsEntries]
    refine ⟨hgrows.trans hgrows', ?_, trivial, hshows.of_keeps (hgrows'.keeps _), hshows'⟩
    refine List.forall_mem_cons.mpr
      ⟨hwithin.mono (Nat.le_refl _) hgrows'.length_le, fun e he => ?_⟩
    exact (hwithin' e he).mono hgrows.length_le (Nat.le_refl _)

end

theorem Grows.complete (hs : Complete Object.points s) (h : Grows s t) :
    Complete Object.points t := by
  obtain ⟨new, rfl, hnew⟩ := h
  exact complete_append hs fun o ho b hb => (hnew o ho b hb).2

theorem Grows.reaches {a b : Nat} (h : Grows s t) (hs : Complete Object.points s)
    (ha : a < s.length) (hreach : Reaches Object.points t a b) : Reaches Object.points s a b := by
  obtain ⟨new, rfl, -⟩ := h
  exact hreach.of_append hs ha

theorem within_of_complete {a : Nat} {o : Object} {slot : Slot} (hs : Complete Object.points s)
    (hget : s[a]? = some o) (hslot : slot ∈ o.slots) : Within 0 s.length slot := by
  intro b hb
  subst hb
  have hlt := hs o (List.mem_of_getElem? hget) b (Object.mem_points.mpr hslot)
  omega

theorem keeps_set {a c : Nat} (hc : ¬ Reaches Object.points s c a) (o : Object) :
    Keeps s (s.set a o) (.ref c) := by
  intro c' b o' hc' hreach hget
  obtain rfl := Slot.ref.inj hc'
  rw [List.getElem?_set_ne]
  · exact hget
  · rintro rfl
    exact hc hreach

end Place

end AerospikePy.Python
