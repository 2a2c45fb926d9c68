import Mathlib.Data.List.Basic
import Mathlib.Data.List.Pairwise

/-!
# Association lists under a key test

A map as the list of its entries, in the order of their first insertion. Keys are
compared by a Boolean test, of which nothing is assumed, so that the lemmas serve
structural equality and weaker notions of equality alike.
-/

namespace AerospikePy.Lib.Assoc

variable {K V : Type*} (eq : K → K → Bool)

/-- The first entry whose key tests equal keeps its key and place and takes the value. -/
def insert : List (K × V) → K → V → List (K × V)
  | [], k, v => [(k, v)]
  | (k', v') :: m, k, v => if eq k' k then (k', v) :: m else (k', v') :: insert m k v

def insertAll (m es : List (K × V)) : List (K × V) := es.foldl (fun m e => insert eq m e.1 e.2) m

def ofList (es : List (K × V)) : List (K × V) := insertAll eq [] es

def lookup (m : List (K × V)) (k : K) : Option V := (m.find? fun e => eq e.1 k).map (·.2)

/-- No key tests equal to a later one. -/
def DistinctKeys (es : List (K × V)) : Prop := es.Pairwise fun e f => eq e.1 f.1 = false

instance (es : List (K × V)) : Decidable (DistinctKeys eq es) :=
  inferInstanceAs (Decidable (List.Pairwise _ es))

variable {eq}

theorem insert_of_fresh {m : List (K × V)} {k : K} (h : ∀ e ∈ m, eq e.1 k = false) (v : V) :
    insert eq m k v = m ++ [(k, v)] := by
  induction m with
  | nil => rfl
  | cons e m ih =>
    have hne : eq e.1 k = false := h e List.mem_cons_self
    rw [insert, if_neg (by simp [hne]), ih fun f hf => h f (List.mem_cons_of_mem e hf)]
    rfl

theorem mem_insert {m : List (K × V)} {k : K} {v : V} {e : K × V} (h : e ∈ insert eq m k v) :
    e.2 = v ∨ ∃ f ∈ m, f.2 = e.2 := by
  induction m with
  | nil =>
    obtain rfl := List.mem_singleton.mp h
    exact Or.inl rfl
  | cons f m ih =>
    rw [insert] at h
    split at h
    · rcases List.mem_cons.mp h with rfl | h
      · exact Or.inl rfl
      · exact Or.inr ⟨e, List.mem_cons_of_mem f h, rfl⟩
    · rcases List.mem_cons.mp h with rfl | h
      · exact Or.inr ⟨_, List.mem_cons_self, rfl⟩
      · rcases ih h with h | ⟨g, hg, heq⟩
        · exact Or.inl h
        · exact Or.inr ⟨g, List.mem_cons_of_mem f hg, heq⟩

theorem key_mem_insert {m : List (K × V)} {k : K} {v : V} {e : K × V} (h : e ∈ insert eq m k v) :
    e.1 = k ∨ ∃ f ∈ m, f.1 = e.1 := by
  induction m with
  | nil =>
    obtain rfl := List.mem_singleton.mp h
    exact Or.inl rfl
  | cons f m ih =>
    rw [insert] at h
    split at h
    · rcases List.mem_cons.mp h with rfl | h
      · exact Or.inr ⟨f, List.mem_cons_self, rfl⟩
      · exact Or.inr ⟨e, List.mem_cons_of_mem f h, rfl⟩
    · rcases List.mem_cons.mp h with rfl | h
      · exact Or.inr ⟨_, List.mem_cons_self, rfl⟩
      · rcases ih h with h | ⟨g, hg, heq⟩
        · exact Or.inl h
        · exact Or.inr ⟨g, List.mem_cons_of_mem f hg, heq⟩

theorem distinct_insert {m : List (K × V)} {k : K} {v : V} (h : DistinctKeys eq m) :
    DistinctKeys eq (insert eq m k v) := by
  induction m with
  | nil => exact List.pairwise_singleton _ _
  | cons e m ih =>
    obtain ⟨he, hm⟩ := List.pairwise_cons.mp h
    rw [insert]
    split
    · exact List.pairwise_cons.mpr ⟨he, hm⟩
    · next hne =>
      refine List.pairwise_cons.mpr ⟨fun f hf => ?_, ih hm⟩
      rcases key_mem_insert hf with hkey | ⟨g, hg, hkey⟩
      · rw [hkey]
        simpa using hne
      · rw [← hkey]
        exact he g hg

/-- An insertion only asks how the keys of the map compare with its own. -/
theorem insert_congr {eq' : K → K → Bool} {m : List (K × V)} {k : K}
    (h : ∀ e ∈ m, eq e.1 k = eq' e.1 k) (v : V) : insert eq m k v = insert eq' m k v := by
  induction m with
  | nil => rfl
  | cons e m ih =>
    obtain ⟨he, hm⟩ := List.forall_mem_cons.mp h
    rw [insert, insert, he, ih hm]

theorem length_insert_of_mem {m : List (K × V)} {k : K} (h : ∃ e ∈ m, eq e.1 k = true) (v : V) :
    (insert eq m k v).length = m.length := by
  induction m with
  | nil => simp at h
  | cons e m ih =>
    rw [insert]
    by_cases he : eq e.1 k = true
    · rw [if_pos he]
      rfl
    · rw [if_neg he]
      obtain ⟨f, hf, hfk⟩ := h
      rcases List.mem_cons.mp hf with rfl | hf
      · exact absurd hfk he
      · simpa using ih ⟨f, hf, hfk⟩

theorem length_insert_le (m : List (K × V)) (k : K) (v : V) :
    (insert eq m k v).length ≤ m.length + 1 := by
  by_cases h : ∃ e ∈ m, eq e.1 k = true
  · rw [length_insert_of_mem h]
    omega
  · rw [insert_of_fresh (by simpa using h)]
    simp

theorem length_insertAll_le (m es : List (K × V)) :
    (insertAll eq m es).length ≤ m.length + es.length := by
  induction es generalizing m with
  | nil => exact Nat.le_refl _
  | cons e es ih =>
    have hrest := ih (insert eq m e.1 e.2)
    have hone := @length_insert_le K V eq m e.1 e.2
    rw [List.length_cons]
    exact Nat.le_trans hrest (by omega)

/-- Entries with distinct keys are all appended. -/
theorem insertAll_of_distinct {m es : List (K × V)} (h : DistinctKeys eq (m ++ es)) :
    insertAll eq m es = m ++ es := by
  induction es generalizing m with
  | nil => rw [List.append_nil]; rfl
  | cons e es ih =>
    have hfresh : ∀ f ∈ m, eq f.1 e.1 = false := fun f hf =>
      (List.pairwise_append.mp h).2.2 f hf e List.mem_cons_self
    change insertAll eq (insert eq m e.1 e.2) es = m ++ e :: es
    rw [insert_of_fresh hfresh, ih (by simpa using h)]
    simp

theorem ofList_of_distinct {es : List (K × V)} (h : DistinctKeys eq es) : ofList eq es = es :=
  insertAll_of_distinct h

/-- The number of entries tells whether a key was repeated: an insertion that finds its
key in the map adds none. -/
theorem length_insertAll_eq_iff {m es : List (K × V)} (hm : DistinctKeys eq m) :
    (insertAll eq m es).length = m.length + es.length ↔ DistinctKeys eq (m ++ es) := by
  induction es generalizing m with
  | nil => simpa [insertAll] using hm
  | cons e es ih =>
    change (insertAll eq (insert eq m e.1 e.2) es).length = _ ↔ _
    by_cases h : ∃ f ∈ m, eq f.1 e.1 = true
    · -- the insertion replaces a value, and the rest cannot make up for it
      have hle := @length_insertAll_le K V eq (insert eq m e.1 e.2) es
      rw [length_insert_of_mem h] at hle
      refine iff_of_false (by rw [List.length_cons]; omega) fun hd => ?_
      obtain ⟨f, hf, hfe⟩ := h
      have hne := (List.pairwise_append.mp hd).2.2 f hf e List.mem_cons_self
      rw [hfe] at hne
      cases hne
    · have hfresh : ∀ f ∈ m, eq f.1 e.1 = false := by simpa using h
      have hm' : DistinctKeys eq (m ++ [e]) := List.pairwise_append.mpr
        ⟨hm, List.pairwise_singleton _ _, fun f hf e' he' => by
          rw [List.mem_singleton.mp he']
          exact hfresh f hf⟩
      have hsplit : m ++ e :: es = m ++ [e] ++ es := by simp
      have hlen : (m ++ [e]).length = m.length + 1 := by simp
      rw [insert_of_fresh hfresh, hsplit, ← ih hm', List.length_cons, hlen, Nat.add_right_comm,
        Nat.add_assoc]

theorem length_ofList_eq_iff {es : List (K × V)} :
    (ofList eq es).length = es.length ↔ DistinctKeys eq es := by
  have h := @length_insertAll_eq_iff K V eq [] es List.Pairwise.nil
  simpa [ofList] using h

theorem lookup_cons (e : K × V) (m : List (K × V)) (k : K) :
    lookup eq (e :: m) k = if eq e.1 k then some e.2 else lookup eq m k := by
  rw [lookup, List.find?_cons]
  by_cases h : eq e.1 k = true
  · simp [h]
  · simp [h, lookup]

/-- An insertion is seen by the keys equal to its own, and by no others. -/
theorem lookup_insert {k k' : K} (hequal : ∀ a, eq a k = true → eq a k' = eq k k')
    (hother : eq k k' = true → ∀ a, eq a k' = eq a k) (m : List (K × V)) (v : V) :
    lookup eq (insert eq m k v) k' = if eq k k' then some v else lookup eq m k' := by
  induction m with
  | nil => exact lookup_cons (k, v) [] k'
  | cons e m ih =>
    rw [insert]
    by_cases he : eq e.1 k = true
    · rw [if_pos he, lookup_cons, lookup_cons, hequal e.1 he]
      by_cases hk : eq k k' = true
      · simp [hk]
      · simp [hk]
    · rw [if_neg he, lookup_cons, lookup_cons, ih]
      by_cases hk : eq k k' = true
      · have hne : eq e.1 k' = false := by rw [hother hk]; simpa using he
        simp [hk, hne]
      · simp [hk]

/-- The keys equal to `k` agree on `k'`, and if `k'` is one of them on everything. -/
def Decides (eq : K → K → Bool) (k k' : K) : Prop :=
  (∀ a, eq a k = true → eq a k' = eq k k') ∧ (eq k k' = true → ∀ a, eq a k' = eq a k)

theorem lookup_insertAll_of_fresh {es : List (K × V)} {k : K}
    (hdec : ∀ e ∈ es, Decides eq e.1 k) (h : ∀ e ∈ es, eq e.1 k = false) (m : List (K × V)) :
    lookup eq (insertAll eq m es) k = lookup eq m k := by
  induction es generalizing m with
  | nil => rfl
  | cons e es ih =>
    obtain ⟨he, hes⟩ := List.forall_mem_cons.mp h
    obtain ⟨⟨hequal, hother⟩, hdec⟩ := List.forall_mem_cons.mp hdec
    have hrest := ih hdec hes (insert eq m e.1 e.2)
    rw [lookup_insert hequal hother, if_neg (by simp [he])] at hrest
    exact hrest

/-- The last entry under a key is found. -/
theorem lookup_insertAll_of_last {pre post : List (K × V)} {e : K × V} {k : K}
    (hdec : ∀ f ∈ pre ++ e :: post, Decides eq f.1 k) (he : eq e.1 k = true)
    (hpost : ∀ f ∈ post, eq f.1 k = false) (m : List (K × V)) :
    lookup eq (insertAll eq m (pre ++ e :: post)) k = some e.2 := by
  have hsplit : insertAll eq m (pre ++ e :: post) =
      insertAll eq (insert eq (insertAll eq m pre) e.1 e.2) post := by
    unfold insertAll
    rw [List.foldl_append, List.foldl_cons]
  obtain ⟨hequal, hother⟩ := hdec e (by simp)
  rw [hsplit, lookup_insertAll_of_fresh (fun f hf => hdec f (by simp [hf])) hpost,
    lookup_insert hequal hother, if_pos he]

end AerospikePy.Lib.Assoc
