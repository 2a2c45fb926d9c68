import Mathlib.Data.List.DropRight
import Mathlib.Data.List.TakeWhile
import AerospikePy.Hosts.Convert
import AerospikePy.Lib.Assoc

/-!
# The parent of a span

`sanitize_traceparent` keeps of the flags of a `traceparent` the sampled bit alone, for a
propagator that refuses a header with others. `extract_python_context` applies it to what
the Python side injects.
-/

namespace AerospikePy.Observability.TraceParent

open AerospikePy.Core
open AerospikePy.Lib
open AerospikePy.Hosts (withoutPlus)

/-- `char::is_whitespace`. -/
def isWhitespace (c : Char) : Bool :=
  let n := c.toNat
  (9 ≤ n && n ≤ 13) || (0x2000 ≤ n && n ≤ 0x200A) ||
    n ∈ [0x20, 0x85, 0xA0, 0x1680, 0x2028, 0x2029, 0x202F, 0x205F, 0x3000]

def trim (s : List Char) : List Char := (s.dropWhile isWhitespace).rdropWhile isWhitespace

/-- `char::to_digit(16)`. -/
def toDigit (c : Char) : Option Nat :=
  if '0' ≤ c ∧ c ≤ '9' then some (c.toNat - '0'.toNat)
  else if 'a' ≤ c ∧ c ≤ 'f' then some (c.toNat - 'a'.toNat + 10)
  else if 'A' ≤ c ∧ c ≤ 'F' then some (c.toNat - 'A'.toNat + 10)
  else none

/-- `u8::from_str_radix(_, 16)`: hexadecimal digits, after a `+` at most. -/
def fromStrRadix (s : List Char) : Option UInt8 := do
  let digits ← (withoutPlus s).mapM toDigit
  let n := digits.foldl (fun n d => 16 * n + d) 0
  if digits ≠ [] ∧ n < 256 then some (.ofNat n) else none

/-- `{:02x}`. -/
def twoDigits (n : UInt8) : List Char :=
  [Nat.digitChar (n.toNat / 16), Nat.digitChar (n.toNat % 16)]

/-- The four parts of a header, joined. -/
def joined (version traceId parentId flags : List Char) : String :=
  .ofList (['-'].intercalate [version, traceId, parentId, flags])

def sanitizeTraceparent (value : String) : Option String :=
  match (trim value.toList).splitOn '-' with
  | [version, traceId, parentId, text] => do
    let flags ← fromStrRadix text
    let masked := flags &&& 0x01
    -- there is nothing to change
    if masked = flags then none else some (joined version traceId parentId (twoDigits masked))
  | _ => none

/-- The headers that the Python side injects. -/
abbrev Carrier := List (String × String)

/-- The `traceparent` of a carrier, fixed where it needs to be. -/
def sanitizeCarrier (carrier : Carrier) : Carrier :=
  match Assoc.lookup (· == ·) carrier "traceparent" with
  | some tp => match sanitizeTraceparent tp with
    | some fixed => Assoc.insert (· == ·) carrier "traceparent" fixed
    | none => carrier
  | none => carrier

/-- `extract_python_context`, with what the propagator makes of headers, what `inject` of
the Python package comes to, and the context of the thread. -/
def extractPythonContext {C : Type} (extract : Carrier → C) (active : Bool)
    (inject : Except PyErr Carrier) (current : C) : C :=
  if active then
    match inject with
    | .ok carrier => if carrier.isEmpty then current else extract (sanitizeCarrier carrier)
    | .error _ => current
  else current

theorem isWhitespace_dash : isWhitespace '-' = false := by decide

theorem isWhitespace_of_digit {c : Char} (h : (toDigit c).isSome = true) :
    isWhitespace c = false := by
  have hbounds : ∀ a b : Char, a ≤ c ∧ c ≤ b → a.toNat ≤ c.toNat ∧ c.toNat ≤ b.toNat :=
    fun a b h => ⟨h.1, h.2⟩
  have hrange : 48 ≤ c.toNat ∧ c.toNat ≤ 57 ∨ 97 ≤ c.toNat ∧ c.toNat ≤ 102 ∨
      65 ≤ c.toNat ∧ c.toNat ≤ 70 := by
    unfold toDigit at h
    split at h
    case isTrue hdigit => exact .inl (hbounds '0' '9' hdigit)
    case isFalse =>
      split at h
      case isTrue hlower => exact .inr (.inl (hbounds 'a' 'f' hlower))
      case isFalse =>
        split at h
        case isTrue hupper => exact .inr (.inr (hbounds 'A' 'F' hupper))
        case isFalse => cases h
  unfold isWhitespace
  generalize c.toNat = n at hrange ⊢
  simp
  omega

theorem not_dash_of_digit {c : Char} (h : (toDigit c).isSome = true) : c ≠ '-' := by
  rintro rfl
  revert h
  decide

theorem fromStrRadix_twoDigits (n : UInt8) : fromStrRadix (twoDigits n) = some n := by
  have hall : ∀ m < 256, fromStrRadix (twoDigits (.ofNat m)) = some (.ofNat m) := by
    decide +kernel
  have h := hall n.toNat n.toNat_lt
  rwa [UInt8.ofNat_toNat] at h

theorem twoDigits_digits (n : UInt8) : ∀ c ∈ twoDigits n, (toDigit c).isSome = true := by
  have hall : ∀ m < 256, (twoDigits (.ofNat m)).all (fun c => (toDigit c).isSome) = true := by
    decide +kernel
  have h := hall n.toNat n.toNat_lt
  rw [UInt8.ofNat_toNat] at h
  exact List.all_eq_true.mp h

/-- A text is its own trimming if it neither begins nor ends with whitespace. -/
theorem trim_of_bounds {s : List Char} (hhead : ∀ c ∈ s.head?, isWhitespace c = false)
    (hlast : ∀ c ∈ s.getLast?, isWhitespace c = false) : trim s = s := by
  have hdrop : s.dropWhile isWhitespace = s := by
    rw [List.dropWhile_eq_self_iff]
    intro hl
    have h := hhead s[0] (by rw [List.head?_eq_getElem?, List.getElem?_eq_getElem hl]; rfl)
    rw [h]
    decide
  rw [trim, hdrop, List.rdropWhile_eq_self_iff]
  intro hne
  have h := hlast (s.getLast hne) (by rw [List.getLast?_eq_some_getLast hne]; rfl)
  rw [h]
  decide

theorem head_trim {s : List Char} {c : Char} (h : c ∈ (trim s).head?) : isWhitespace c = false := by
  obtain ⟨rest, hrest⟩ : ∃ rest, s.dropWhile isWhitespace = c :: rest := by
    obtain ⟨tail, htail⟩ := List.rdropWhile_prefix isWhitespace (s.dropWhile isWhitespace)
    unfold trim at h
    cases htrim : (s.dropWhile isWhitespace).rdropWhile isWhitespace with
    | nil =>
      rw [htrim] at h
      cases h
    | cons d trimmed =>
      rw [htrim] at h htail
      obtain rfl := Option.some.inj h
      exact ⟨_, htail.symm⟩
  have hnot := List.head?_dropWhile_not isWhitespace s
  rw [hrest] at hnot
  simpa using hnot

theorem joined_toList (version traceId parentId flags : List Char) :
    (joined version traceId parentId flags).toList =
      (version ++ '-' :: traceId ++ '-' :: parentId ++ ['-']) ++ flags := by
  simp [joined, List.intercalate, List.intersperse]

/-- A trimmed text of four parts, the last of which is read as these flags. -/
structure Splits (value : String) (version traceId parentId : List Char) (flags : UInt8) :
    Prop where
  parts : ∃ text, (trim value.toList).splitOn '-' = [version, traceId, parentId, text] ∧
    fromStrRadix text = some flags

theorem sanitizeTraceparent_eq_some {value fixed : String} :
    sanitizeTraceparent value = some fixed ↔ ∃ version traceId parentId flags,
      Splits value version traceId parentId flags ∧ flags &&& 0x01 ≠ flags ∧
        fixed = joined version traceId parentId (twoDigits (flags &&& 0x01)) := by
  unfold sanitizeTraceparent
  constructor
  · intro h
    split at h
    case h_1 version traceId parentId text hsplit =>
      obtain ⟨flags, hflags, h⟩ := Option.bind_eq_some_iff.mp h
      obtain ⟨hne, h⟩ := Option.ite_none_left_eq_some.mp h
      exact ⟨version, traceId, parentId, flags, ⟨text, hsplit, hflags⟩, hne,
        (Option.some.inj h).symm⟩
    case h_2 => cases h
  · rintro ⟨version, traceId, parentId, flags, ⟨text, hsplit, hflags⟩, hne, rfl⟩
    rw [hsplit]
    simp [hflags, hne]

theorem Splits.unique {value : String} {version traceId parentId version' traceId' parentId' : List Char}
    {flags flags' : UInt8} (h : Splits value version traceId parentId flags)
    (h' : Splits value version' traceId' parentId' flags') :
    version = version' ∧ traceId = traceId' ∧ parentId = parentId' ∧ flags = flags' := by
  obtain ⟨text, hsplit, hflags⟩ := h.parts
  obtain ⟨text', hsplit', hflags'⟩ := h'.parts
  rw [hsplit] at hsplit'
  simp only [List.cons.injEq, and_true] at hsplit'
  obtain ⟨rfl, rfl, rfl, rfl⟩ := hsplit'
  exact ⟨rfl, rfl, rfl, Option.some.inj (hflags.symm.trans hflags')⟩

theorem sanitizeTraceparent_of_splits {value : String} {version traceId parentId : List Char}
    {flags : UInt8} (h : Splits value version traceId parentId flags) :
    sanitizeTraceparent value = if flags &&& 0x01 = flags then none
      else some (joined version traceId parentId (twoDigits (flags &&& 0x01))) := by
  obtain ⟨text, hsplit, hflags⟩ := h.parts
  unfold sanitizeTraceparent
  rw [hsplit]
  simp [hflags]

/-- The parts of a header are found again. -/
theorem splits_joined {version traceId parentId : List Char} (flags : UInt8)
    (hparts : ∀ l ∈ [version, traceId, parentId], '-' ∉ l)
    (hhead : ∀ c ∈ version.head?, isWhitespace c = false) :
    Splits (joined version traceId parentId (twoDigits flags)) version traceId parentId flags := by
  have hdigits := twoDigits_digits flags
  refine ⟨twoDigits flags, ?_, fromStrRadix_twoDigits flags⟩
  have htrim : trim (joined version traceId parentId (twoDigits flags)).toList =
      ['-'].intercalate [version, traceId, parentId, twoDigits flags] := by
    rw [trim_of_bounds]
    · exact String.toList_ofList
    · rw [joined_toList]
      cases version with
      | nil => exact fun c hc => Option.some.inj hc ▸ isWhitespace_dash
      | cons d version => exact hhead
    · rw [joined_toList, List.getLast?_append_of_ne_nil _ (by simp [twoDigits])]
      exact fun c hc => isWhitespace_of_digit (hdigits c (List.mem_of_getLast? hc))
  rw [htrim, Separated.splitOn_intercalate_iff (by simp)]
  intro l hl
  rcases List.mem_append.mp (show l ∈ [version, traceId, parentId] ++ [twoDigits flags] from hl)
    with hl | hl
  · exact hparts l hl
  · obtain rfl := List.mem_singleton.mp hl
    exact fun hdash => not_dash_of_digit (hdigits _ hdash) rfl

theorem Splits.wellFormed {value : String} {version traceId parentId : List Char} {flags : UInt8}
    (h : Splits value version traceId parentId flags) :
    (∀ l ∈ [version, traceId, parentId], '-' ∉ l) ∧
      ∀ c ∈ version.head?, isWhitespace c = false := by
  obtain ⟨text, hsplit, -⟩ := h.parts
  refine ⟨fun l hl => Separated.not_mem_of_mem_splitOn (l := trim value.toList) ?_,
    fun c hc => head_trim (s := value.toList) ?_⟩
  · rw [hsplit]
    simp only [List.mem_cons, List.not_mem_nil, or_false] at hl ⊢
    tauto
  · have hjoin : ['-'].intercalate ((trim value.toList).splitOn '-') = trim value.toList :=
      List.intercalate_splitOn '-'
    rw [hsplit] at hjoin
    rw [← hjoin]
    cases version with
    | nil => cases hc
    | cons d version => exact hc

/-- What the propagator is given of a header. -/
def parentHeader (value : String) : String := (sanitizeTraceparent value).getD value

theorem masked_eq_iff (flags : UInt8) : flags &&& 0x01 = flags ↔ flags ≤ 1 := by
  have hall : ∀ m < 256, UInt8.ofNat m &&& 0x01 = .ofNat m ↔ UInt8.ofNat m ≤ 1 := by
    decide +kernel
  have h := hall flags.toNat flags.toNat_lt
  rwa [UInt8.ofNat_toNat] at h

theorem masked_le (flags : UInt8) : flags &&& 0x01 ≤ 1 := by
  rw [← masked_eq_iff, UInt8.and_assoc, UInt8.and_self]

theorem splits_fixed {value : String} {version traceId parentId : List Char} {flags : UInt8}
    (h : Splits value version traceId parentId flags) :
    Splits (joined version traceId parentId (twoDigits (flags &&& 0x01))) version traceId parentId
      (flags &&& 0x01) :=
  splits_joined _ h.wellFormed.1 h.wellFormed.2

/-- A fixed header is not changed again. -/
theorem sanitizeTraceparent_parentHeader (value : String) :
    sanitizeTraceparent (parentHeader value) = none := by
  unfold parentHeader
  cases h : sanitizeTraceparent value with
  | none => exact h
  | some fixed =>
    obtain ⟨version, traceId, parentId, flags, hsplits, -, rfl⟩ :=
      sanitizeTraceparent_eq_some.mp h
    rw [Option.getD_some, sanitizeTraceparent_of_splits (splits_fixed hsplits)]
    exact if_pos ((masked_eq_iff _).mpr (masked_le flags))

/-- A header is changed exactly if its flags have other bits. -/
theorem parentHeader_eq_self_iff (value : String) : parentHeader value = value ↔
    ∀ version traceId parentId flags, Splits value version traceId parentId flags → flags ≤ 1 := by
  constructor
  · intro hsame version traceId parentId flags hsplits
    rw [← masked_eq_iff]
    by_contra hne
    have hfixed := sanitizeTraceparent_of_splits hsplits
    rw [if_neg hne] at hfixed
    rw [parentHeader, hfixed, Option.getD_some] at hsame
    -- the flags that are read of the fixed header are others
    have hsplits' := splits_fixed hsplits
    rw [hsame] at hsplits'
    exact hne (hsplits'.unique hsplits).2.2.2
  · intro h
    unfold parentHeader
    cases hfixed : sanitizeTraceparent value with
    | none => rfl
    | some fixed =>
      obtain ⟨version, traceId, parentId, flags, hsplits, hne, -⟩ :=
        sanitizeTraceparent_eq_some.mp hfixed
      exact absurd ((masked_eq_iff flags).mpr (h _ _ _ _ hsplits)) hne

theorem lookup_insert (carrier : Carrier) (key value key' : String) :
    Assoc.lookup (· == ·) (Assoc.insert (· == ·) carrier key value) key' =
      if key = key' then some value else Assoc.lookup (· == ·) carrier key' := by
  have h := @Assoc.lookup_insert String String (· == ·) key key'
    (fun a ha => by rw [eq_of_beq ha]) (fun hkey a => by rw [eq_of_beq hkey]) carrier value
  simpa using h

/-- The other headers are passed on as they are. -/
theorem lookup_sanitizeCarrier (carrier : Carrier) (key : String) :
    Assoc.lookup (· == ·) (sanitizeCarrier carrier) key =
      (Assoc.lookup (· == ·) carrier key).map
        (if key = "traceparent" then parentHeader else id) := by
  unfold sanitizeCarrier
  by_cases hkey : key = "traceparent"
  · subst hkey
    rw [if_pos rfl]
    cases htp : Assoc.lookup (· == ·) carrier "traceparent" with
    | none =>
      dsimp only
      rw [htp]
      rfl
    | some tp =>
      cases hfixed : sanitizeTraceparent tp with
      | none => simp only [hfixed, htp, Option.map_some, parentHeader, Option.getD_none]
      | some fixed => simp only [hfixed, lookup_insert, if_true, Option.map_some, parentHeader,
          Option.getD_some]
  · rw [if_neg hkey, Option.map_id, id]
    split
    · split
      · rw [lookup_insert, if_neg (Ne.symm hkey)]
      · rfl
    · rfl

/-- A header as the W3C has it: hexadecimal digits between dashes. -/
structure Header where
  version : List Char
  traceId : List Char
  parentId : List Char
  flags : UInt8
  digits : ∀ c ∈ version ++ traceId ++ parentId, (toDigit c).isSome = true

namespace Header

def text (h : Header) : String := joined h.version h.traceId h.parentId (twoDigits h.flags)

/-- The same header, with no flag but the sampled bit. -/
def masked (h : Header) : Header := { h with flags := h.flags &&& 0x01 }

theorem splits (h : Header) : Splits h.text h.version h.traceId h.parentId h.flags := by
  have hdigits := h.digits
  simp only [List.mem_append] at hdigits
  refine splits_joined h.flags (fun l hl hdash => ?_) fun c hc => ?_
  · simp only [List.mem_cons, List.not_mem_nil, or_false] at hl
    refine not_dash_of_digit (hdigits '-' ?_) rfl
    rcases hl with rfl | rfl | rfl <;> tauto
  · exact isWhitespace_of_digit (hdigits c (.inl (.inl (List.mem_of_mem_head? hc))))

theorem sanitized (h : Header) :
    sanitizeTraceparent h.text = if h.flags ≤ 1 then none else some h.masked.text := by
  rw [sanitizeTraceparent_of_splits h.splits]
  simp only [masked_eq_iff]
  rfl

end Header

/-- `strict` finds what `lenient` does in the carriers that it does not refuse, and
`lenient` reads no flag but the sampled bit. -/
structure Refuses {C : Type} (strict lenient : Carrier → C) : Prop where
  agrees : ∀ carrier (h : Header), Assoc.lookup (· == ·) carrier "traceparent" = some h.text →
    h.flags ≤ 1 → strict carrier = lenient carrier
  sampled : ∀ carrier (h : Header), Assoc.lookup (· == ·) carrier "traceparent" = some h.text →
    lenient (Assoc.insert (· == ·) carrier "traceparent" h.masked.text) = lenient carrier

theorem strict_sanitizeCarrier {C : Type} {strict lenient : Carrier → C}
    (hrefuses : Refuses strict lenient) {carrier : Carrier} {h : Header}
    (hlookup : Assoc.lookup (· == ·) carrier "traceparent" = some h.text) :
    strict (sanitizeCarrier carrier) = lenient carrier := by
  unfold sanitizeCarrier
  rw [hlookup]
  dsimp only
  rw [h.sanitized]
  by_cases hflags : h.flags ≤ 1
  · rw [if_pos hflags]
    exact hrefuses.agrees carrier h hlookup hflags
  · rw [if_neg hflags]
    have hfixed := lookup_insert carrier "traceparent" h.masked.text "traceparent"
    rw [if_pos rfl] at hfixed
    exact (hrefuses.agrees _ h.masked hfixed (masked_le h.flags)).trans
      (hrefuses.sampled carrier h hlookup)

/-- Exactly the headers with other flags than the sampled bit are changed, and not again;
no other header is; and a propagator that refuses such flags finds every parent that one
which accepts them would. -/
theorem parent_kept {C : Type} (strict lenient : Carrier → C) (hrefuses : Refuses strict lenient)
    (current : C) :
    (∀ value, sanitizeTraceparent (parentHeader value) = none ∧
      (parentHeader value = value ↔ ∀ version traceId parentId flags,
        Splits value version traceId parentId flags → flags ≤ 1)) ∧
    (∀ carrier key, Assoc.lookup (· == ·) (sanitizeCarrier carrier) key =
      (Assoc.lookup (· == ·) carrier key).map
        (if key = "traceparent" then parentHeader else id)) ∧
    ∀ carrier (h : Header), Assoc.lookup (· == ·) carrier "traceparent" = some h.text →
      extractPythonContext strict true (.ok carrier) current = lenient carrier := by
  refine ⟨fun value => ⟨sanitizeTraceparent_parentHeader value, parentHeader_eq_self_iff value⟩,
    lookup_sanitizeCarrier, fun carrier h hlookup => ?_⟩
  have hne : carrier.isEmpty = false := by
    cases carrier with
    | nil => cases hlookup
    | cons e carrier => rfl
  unfold extractPythonContext
  simp only [if_true, hne, Bool.false_eq_true, if_false]
  exact strict_sanitizeCarrier hrefuses hlookup

/-- A propagator that takes a parent from the headers whose flags it accepts. -/
def readParent (accepts : List Char → UInt8 → Bool) (carrier : Carrier) :
    Option (List Char × List Char × Bool) := do
  let tp ← Assoc.lookup (· == ·) carrier "traceparent"
  match (trim tp.toList).splitOn '-' with
  | [version, traceId, parentId, text] => do
    let flags ← fromStrRadix text
    if accepts version flags then some (traceId, parentId, flags &&& 0x01 == 0x01) else none
  | _ => none

theorem readParent_of_lookup (accepts : List Char → UInt8 → Bool) {carrier : Carrier} {h : Header}
    (hlookup : Assoc.lookup (· == ·) carrier "traceparent" = some h.text) :
    readParent accepts carrier = if accepts h.version h.flags then
      some (h.traceId, h.parentId, h.flags &&& 0x01 == 0x01) else none := by
  obtain ⟨text, hsplit, hflags⟩ := h.splits.parts
  unfold readParent
  rw [hlookup]
  simp only [Option.bind_eq_bind, Option.bind_some]
  rw [hsplit]
  simp [hflags]

/-- Version 00 is refused with flags above 2. -/
def upToTwo (version : List Char) (flags : UInt8) : Bool :=
  !(version == ['0', '0'] && decide (2 < flags))

theorem refuses_upToTwo : Refuses (readParent upToTwo) (readParent fun _ _ => true) where
  agrees carrier h hlookup hflags := by
    have haccepts : upToTwo h.version h.flags = true := by
      have hnot : ¬ 2 < h.flags := fun hlt => absurd (UInt8.lt_of_lt_of_le hlt hflags) (by decide)
      simp [upToTwo, hnot]
    rw [readParent_of_lookup _ hlookup, readParent_of_lookup _ hlookup, haccepts]
  sampled carrier h hlookup := by
    have hmasked := lookup_insert carrier "traceparent" h.masked.text "traceparent"
    rw [if_pos rfl] at hmasked
    rw [readParent_of_lookup _ hmasked, readParent_of_lookup _ hlookup]
    simp [Header.masked, UInt8.and_assoc]

/-- Sampled, with a random trace identifier. -/
def sampledRandom : Header where
  version := "00".toList
  traceId := "4bf92f3577b34da6a3ce929d0e0e4736".toList
  parentId := "00f067aa0ba902b7".toList
  flags := 0x03
  digits := List.all_eq_true.mp (by decide +kernel)

theorem parent_kept_sampledRandom :
    let carrier : Carrier := [("tracestate", "vendor=1"), ("traceparent", sampledRandom.text)]
    readParent upToTwo carrier = none ∧
    extractPythonContext (readParent upToTwo) true (.ok carrier) none =
      some ("4bf92f3577b34da6a3ce929d0e0e4736".toList, "00f067aa0ba902b7".toList, true) := by
  intro carrier
  refine ⟨by decide +kernel, ?_⟩
  rw [(parent_kept _ _ refuses_upToTwo none).2.2 carrier sampledRandom (by decide +kernel)]
  decide +kernel

end AerospikePy.Observability.TraceParent
