import AerospikePy.Python.Object

/-!
# Extraction

What `extract` and `cast` of PyO3 make of an object, for the types that the source asks
for. An integer is taken through `__index__`, so that `True` is 1.
-/

namespace AerospikePy.Python

open AerospikePy.Core
open AerospikePy.Lib.Fallible

def notAn (obj : PyObj) (type : String) : PyErr :=
  ⟨.typeError, s!"'{obj.typeName}' object is not an instance of '{type}'"⟩

def indexOf : PyObj → Except PyErr Int
  | .int n => .ok n
  | .bool b => .ok (if b then 1 else 0)
  | obj@(.other i) => match i.index with
    | some n => .ok n
    | none => .error ⟨.typeError,
        s!"'{obj.typeName}' object cannot be interpreted as an integer"⟩
  | obj => .error ⟨.typeError, s!"'{obj.typeName}' object cannot be interpreted as an integer"⟩

/-- An integer of a machine type with these bounds. -/
def extractWithin (lo hi : Int) (obj : PyObj) : Except PyErr Int := do
  let n ← indexOf obj
  require (lo ≤ n ∧ n ≤ hi) ⟨.overflowError, "int too big to convert"⟩
  return n

def extractI32 (obj : PyObj) : Except PyErr Int := extractWithin (-2 ^ 31) (2 ^ 31 - 1) obj

def extractI64 (obj : PyObj) : Except PyErr Int64 := do
  let n ← extractWithin (-2 ^ 63) (2 ^ 63 - 1) obj
  return .ofInt n

def extractU8 (obj : PyObj) : Except PyErr UInt8 := do
  let n ← extractWithin 0 (2 ^ 8 - 1) obj
  return .ofNat n.toNat

def extractU16 (obj : PyObj) : Except PyErr UInt16 := do
  let n ← extractWithin 0 (2 ^ 16 - 1) obj
  return .ofNat n.toNat

def extractU32 (obj : PyObj) : Except PyErr UInt32 := do
  let n ← extractWithin 0 (2 ^ 32 - 1) obj
  return .ofNat n.toNat

def extractU64 (obj : PyObj) : Except PyErr UInt64 := do
  let n ← extractWithin 0 (2 ^ 64 - 1) obj
  return .ofNat n.toNat

def extractBool : PyObj → Except PyErr Bool
  | .bool b => .ok b
  | obj => .error (notAn obj "bool")

def isSurrogate (point : Nat) : Bool := decide (0xD800 ≤ point ∧ point ≤ 0xDFFF)

/-- What `PyUnicode_AsUTF8AndSize` raises at the first run of surrogates. -/
def surrogatesNotAllowed (points : List Nat) : PyErr :=
  let start := (points.takeWhile fun point => !isSurrogate point).length
  let run := (points.drop start).takeWhile isSurrogate
  let place := match run with
    | [point] => "character '\\u" ++ .ofList (Nat.toDigits 16 point) ++ "' in position "
        ++ toString start
    | _ => "characters in position " ++ toString start ++ "-"
        ++ toString (start + run.length - 1)
  ⟨.unicodeEncodeError, "'utf-8' codec can't encode " ++ place ++ ": surrogates not allowed"⟩

def extractString : PyObj → Except PyErr String
  | .str (.utf8 s) => .ok s
  | .str (.surrogates points) => .error (surrogatesNotAllowed points)
  | obj => .error (notAn obj "str")

def intToF64 (n : Int) : Except PyErr F64 := do
  require ((F64.ofInt n).isFinite = true) ⟨.overflowError, "int too large to convert to float"⟩
  return F64.ofInt n

def extractF64 : PyObj → Except PyErr F64
  | .float x => .ok x
  | obj@(.other i) => match i.float with
    | some x => .ok x
    | none => do
      let n ← indexOf obj
      intToF64 n
  | obj => do
    let n ← indexOf obj
    intToF64 n

/-- `Vec<u8>`: any sequence of small integers but a `str`. -/
def extractBytes : PyObj → Except PyErr (List UInt8)
  | .bytes b | .bytearray b => .ok b
  | .list xs | .tuple xs => xs.mapM extractU8
  | .str _ => .error ⟨.typeError, "Can't extract `str` to `Vec`"⟩
  | obj => .error (notAn obj "Sequence")

/-- `Vec<String>`: any sequence of texts but a `str`. -/
def extractStrings : PyObj → Except PyErr (List String)
  | .list xs | .tuple xs => xs.mapM extractString
  | .bytes b | .bytearray b => b.mapM fun byte => extractString (.int byte.toNat)
  | .str _ => .error ⟨.typeError, "Can't extract `str` to `Vec`"⟩
  | obj => .error (notAn obj "Sequence")

def castDict : PyObj → Except PyErr Entries
  | .dict es => .ok es
  | obj => .error (notAn obj "dict")

def castList : PyObj → Except PyErr (List PyObj)
  | .list xs => .ok xs
  | obj => .error (notAn obj "list")

def castTuple : PyObj → Except PyErr (List PyObj)
  | .tuple xs => .ok xs
  | obj => .error (notAn obj "tuple")

theorem extractWithin_eq_ok {lo hi n : Int} {obj : PyObj} :
    extractWithin lo hi obj = .ok n ↔ indexOf obj = .ok n ∧ lo ≤ n ∧ n ≤ hi := by
  rw [extractWithin, bind_eq_ok]
  constructor
  · rintro ⟨m, hm, h⟩
    obtain ⟨_, hreq, hn⟩ := bind_eq_ok.mp h
    obtain rfl := Except.ok.inj hn
    exact ⟨hm, require_eq_ok.mp hreq⟩
  · rintro ⟨hm, hn⟩
    exact ⟨n, hm, require_bind hn _ _⟩

theorem extractI64_int {n : Int} {i : Int64} :
    extractI64 (.int n) = .ok i ↔ n = i.toInt := by
  rw [extractI64, bind_eq_ok]
  constructor
  · rintro ⟨m, hm, hi⟩
    obtain ⟨hn, hlo, hhi⟩ := extractWithin_eq_ok.mp hm
    obtain rfl := Except.ok.inj hn
    obtain rfl := Except.ok.inj hi
    exact (Int64.toInt_ofInt_of_le hlo (by omega)).symm
  · rintro rfl
    have hlo := Int64.le_toInt i
    have hhi := Int64.toInt_lt i
    exact ⟨i.toInt, extractWithin_eq_ok.mpr ⟨rfl, hlo, by omega⟩, by rw [Int64.ofInt_toInt]; rfl⟩

theorem extractU8_eq_ok {obj : PyObj} {n : UInt8} :
    extractU8 obj = .ok n ↔ indexOf obj = .ok (n.toNat : Int) := by
  rw [extractU8, bind_eq_ok]
  constructor
  · rintro ⟨m, hm, hn⟩
    obtain ⟨hindex, hlo, hhi⟩ := extractWithin_eq_ok.mp hm
    obtain rfl := Except.ok.inj hn
    have hm : m.toNat < 2 ^ 8 := by omega
    rw [hindex, UInt8.toNat_ofNat_of_lt' hm]
    exact congrArg Except.ok (by omega)
  · intro h
    have hn := n.toNat_lt
    refine ⟨n.toNat, extractWithin_eq_ok.mpr ⟨h, by omega, by omega⟩, ?_⟩
    exact congrArg Except.ok (by simp)

theorem extractU32_toNat (u : UInt32) : extractU32 (.int u.toNat) = .ok u := by
  have hlt := u.toNat_lt
  have hwithin : extractWithin 0 (2 ^ 32 - 1) (.int u.toNat) = .ok (u.toNat : Int) :=
    extractWithin_eq_ok.mpr ⟨rfl, by omega, by omega⟩
  rw [extractU32, bind_of_eq_ok hwithin]
  show Except.ok (UInt32.ofNat (u.toNat : Int).toNat) = _
  rw [Int.toNat_natCast, UInt32.ofNat_toNat]

theorem extractString_eq_ok {obj : PyObj} {s : String} :
    extractString obj = .ok s ↔ obj = .str s := by
  cases obj with
  | str t => cases t <;> simp [extractString]
  | _ => simp [extractString]

theorem mapM_extractString (texts : List String) :
    (texts.map fun s => PyObj.str (.utf8 s)).mapM extractString = .ok texts := by
  rw [mapM_eq_ok, List.forall₂_map_left_iff, List.forall₂_same]
  exact fun s _ => rfl

theorem castList_eq_ok {obj : PyObj} {xs : List PyObj} :
    castList obj = .ok xs ↔ obj = .list xs := by
  cases obj <;> simp [castList]

theorem castTuple_eq_ok {obj : PyObj} {xs : List PyObj} :
    castTuple obj = .ok xs ↔ obj = .tuple xs := by
  cases obj <;> simp [castTuple]

theorem castDict_eq_ok {obj : PyObj} {es : Entries} : castDict obj = .ok es ↔ obj = .dict es := by
  cases obj <;> simp [castDict]

end AerospikePy.Python
