import AerospikePy.Keys.Convert

/-!
# Batch results in Python

`types/record.rs` and the traversals of `batch_types.rs` over the results of a batch:
`batch_to_dict_py`, `batch_to_list_py`, `collect_user_keys` and the `BatchRecord`
wrappers. Each decides by itself what a missing user key, a failed record and a
missing body mean.
-/

namespace AerospikePy.Batch

open AerospikePy.Core
open AerospikePy.Keys
open AerospikePy.Lib
open AerospikePy.Lib.Fallible
open AerospikePy.Python
open AerospikePy.Values

/-- `aerospike_core::Record`. The bins are in the order in which their map iterates. -/
structure Record where
  key : Option Key
  bins : List (String × Value)
  generation : UInt32
  expiration : UInt32
  distinct : (bins.map (·.1)).Nodup := by decide

/-- What `Record::time_to_live` answers at the time of a call, in whole seconds. -/
abbrev Clock := Record → Option Nat

abbrev Results := List (BatchRecord Key Record)

def resultCodeToInt : ResultCode → Int
  | .ok => 0
  | .serverError => 1
  | .keyNotFoundError => 2
  | .generationError => 3
  | .parameterError => 4
  | .keyExistsError => 5
  | .binExistsError => 6
  | .clusterKeyMismatch => 7
  | .serverMemError => 8
  | .timeout => 9
  | .alwaysForbidden => 10
  | .partitionUnavailable => 11
  | .binTypeError => 12
  | .recordTooBig => 13
  | .keyBusy => 14
  | .scanAbort => 15
  | .unsupportedFeature => 16
  | .binNotFound => 17
  | .deviceOverload => 18
  | .keyMismatch => 19
  | .invalidNamespace => 20
  | .binNameTooLong => 21
  | .failForbidden => 22
  | .elementNotFound => 23
  | .elementExists => 24
  | .enterpriseOnly => 25
  | .opNotApplicable => 26
  | .filteredOut => 27
  | .lostConflict => 28
  | .xdrKeyBusy => 32
  | .queryEnd => 50
  | .securityNotSupported => 51
  | .securityNotEnabled => 52
  | .securitySchemeNotSupported => 53
  | .invalidCommand => 54
  | .invalidField => 55
  | .illegalState => 56
  | .invalidUser => 60
  | .userAlreadyExists => 61
  | .invalidPassword => 62
  | .expiredPassword => 63
  | .forbiddenPassword => 64
  | .invalidCredential => 65
  | .expiredSession => 66
  | .invalidRole => 70
  | .roleAlreadyExists => 71
  | .invalidPrivilege => 72
  | .invalidAllowlist => 73
  | .quotasNotEnabled => 74
  | .invalidQuota => 75
  | .notAuthenticated => 80
  | .roleViolation => 81
  | .notAllowlisted => 82
  | .quotaExceeded => 83
  | .udfBadResponse => 100
  | .batchDisabled => 150
  | .batchMaxRequestsExceeded => 151
  | .batchQueuesFull => 152
  | .invalidGeojson => 160
  | .indexFound => 200
  | .indexNotFound => 201
  | .indexOom => 202
  | .indexNotReadable => 203
  | .indexGeneric => 204
  | .indexNameMaxLen => 205
  | .indexMaxCount => 206
  | .queryAborted => 210
  | .queryQueueFull => 211
  | .queryTimeout => 212
  | .queryGeneric => 213
  | .queryNetioErr => 214
  | .queryDuplicate => 215
  | .unknown code => code.toNat

/-- A code as the wire decoder makes it: the codes that are listed have their own names. -/
def FromWire (rc : ResultCode) : Prop :=
  ∀ code, rc = .unknown code →
    ∀ listed, (∀ c, listed ≠ .unknown c) → resultCodeToInt listed ≠ resultCodeToInt rc

/-- The `result` of a batch record; a missing code is 0. -/
def resultOf {K R : Type} (br : BatchRecord K R) : Int :=
  match br.resultCode with
  | some rc => resultCodeToInt rc
  | none => 0

def ttlFromDuration : Option Nat → UInt32
  | some secs => .ofNat (min secs (2 ^ 32 - 1))
  | none => 0xFFFFFFFF

def recordTtlSeconds (clock : Clock) (record : Record) : UInt32 := ttlFromDuration (clock record)

variable (rt : Runtime) (clock : Clock)

/-- The loop over the bins of a record, each set under its name. -/
def fillBins : List (String × Value) → Entries → Except PyErr Entries
  | [], bins => .ok bins
  | (name, value) :: rest, bins => do
    let v ← valueToPy rt value
    let bins ← setItem bins (.str name) v
    fillBins rest bins

def binsToPy (record : Record) : Except PyErr PyObj := do
  let bins ← fillBins rt record.bins []
  return .dict bins

/-- The server's key goes before the converted one, and that before the requested one. -/
def recordKeyToPy (record : Record) (fallbackKey : Option Key) (preKeyPy : Option PyObj) :
    Except PyErr PyObj :=
  match record.key, preKeyPy, fallbackKey with
  | some key, _, _ => keyToPy rt key
  | none, some k, _ => .ok k
  | none, none, some key => keyToPy rt key
  | none, none, none => .ok .none

/-- `(key, meta, bins)`. -/
def recordToPyInner (record : Record) (fallbackKey : Option Key) (preKeyPy : Option PyObj) :
    Except PyErr PyObj := do
  let keyPy ← recordKeyToPy rt record fallbackKey preKeyPy
  let ttl := recordTtlSeconds clock record
  let bins ← binsToPy rt record
  return .tuple [keyPy,
    .dict [(.str "gen", .int record.generation.toNat), (.str "ttl", .int ttl.toNat)], bins]

def recordToPy (record : Record) (fallbackKey : Option Key) : Except PyErr PyObj :=
  recordToPyInner rt clock record fallbackKey none

def recordToPyWithKey (record : Record) (preKeyPy : PyObj) : Except PyErr PyObj :=
  recordToPyInner rt clock record none (some preKeyPy)

inductive LazyRecordCell where
  | pending (record : Record) (keyPy : PyObj)
  | converted (cached : PyObj)
  | none

/-- The answer, and the cell afterwards. -/
def LazyRecordCell.toPython (cell : LazyRecordCell) : Except PyErr (PyObj × LazyRecordCell) :=
  match cell with
  | .pending record keyPy => do
    let pyObj ← recordToPyWithKey rt clock record keyPy
    return (pyObj, .converted pyObj)
  | .converted cached => .ok (cached, cell)
  | .none => .ok (.none, cell)

/-- `PyBatchRecord`, as it is built: the mutex around its cell is not poisoned. -/
structure PyBatchRecord where
  key : PyObj
  result : Int
  recordCell : LazyRecordCell
  inDoubt : Bool

/-- The getter of `record`. -/
def PyBatchRecord.record (br : PyBatchRecord) : Except PyErr PyObj := do
  let (pyObj, _) ← br.recordCell.toPython rt clock
  return pyObj

def singleBatchRecordToPy (br : BatchRecord Key Record) : Except PyErr PyBatchRecord := do
  let keyPy ← keyToPy rt br.key
  let recordCell := match br.record with
    | some record => LazyRecordCell.pending record keyPy
    | none => .none
  return ⟨keyPy, resultOf br, recordCell, br.inDoubt⟩

def userKeyToPy : Value → Except PyErr PyObj
  | .string s => .ok (.str s)
  | .int i => .ok (.int i.toInt)
  | v => valueToPy rt v

/-- `matches!(&br.result_code, None | Some(ResultCode::Ok))`. -/
def isOk (br : BatchRecord Key Record) : Bool :=
  match br.resultCode with
  | none | some .ok => true
  | _ => false

/-- One turn of the loop of `batch_to_dict_py`. The user key of a failed record is
converted too. -/
def addToDict (dict : Entries) (br : BatchRecord Key Record) : Except PyErr Entries := do
  match br.key.userKey with
  | none => return dict
  | some userKey =>
    let keyStr ← userKeyToPy rt userKey
    if isOk br = false then return dict
    else match br.record with
      | none => return dict
      | some record =>
        let bins ← binsToPy rt record
        setItem dict keyStr bins

def batchToDictPy (results : Results) : Except PyErr Entries := results.foldlM (addToDict rt) []

/-- The slot of one record: its bins or `None`. -/
def slotToPy (br : BatchRecord Key Record) : Except PyErr PyObj :=
  if isOk br = false then .ok .none
  else match br.record with
    | some record => binsToPy rt record
    | none => .ok .none

def batchToListPy (results : Results) : Except PyErr (List PyObj) := results.mapM (slotToPy rt)

def userKeyOrNone (br : BatchRecord Key Record) : Except PyErr PyObj :=
  match br.key.userKey with
  | some userKey => userKeyToPy rt userKey
  | none => .ok .none

def collectUserKeys (results : Results) : Except PyErr (List PyObj) :=
  results.mapM (userKeyOrNone rt)

structure PyBatchReadIter where
  inner : Results
  index : Nat

/-- `__next__`: the next item, if there is one, and the iterator afterwards. -/
def PyBatchReadIter.next (it : PyBatchReadIter) :
    Except PyErr (Option PyBatchRecord) × PyBatchReadIter :=
  match it.inner[it.index]? with
  | none => (.ok none, it)
  | some br => (some <$> singleBatchRecordToPy rt br, { it with index := it.index + 1 })

/-- `list(it)`, with room for this many items. -/
def PyBatchReadIter.collect : Nat → PyBatchReadIter → Except PyErr (List PyBatchRecord)
  | 0, _ => .ok []
  | room + 1, it => do
    let item ← (it.next rt).1
    match item with
    | none => return []
    | some br =>
      let rest ← collect room (it.next rt).2
      return br :: rest

variable {rt clock}

theorem userKeyToPy_eq (v : Value) : userKeyToPy rt v = valueToPy rt v := by
  cases v with
  | string s => rfl
  | int i => rfl
  | _ => rfl

theorem resultOf_eq_zero_iff {br : BatchRecord Key Record}
    (hwire : ∀ rc, br.resultCode = some rc → FromWire rc) :
    resultOf br = 0 ↔ isOk br = true := by
  unfold resultOf isOk
  cases hrc : br.resultCode with
  | none => simp
  | some rc =>
    cases rc with
    | unknown code =>
      have hne := hwire _ hrc code rfl .ok (by simp)
      exact iff_of_false (fun h => hne h.symm) (by simp)
    | _ => decide

/-- The names of a record are distinct, so that no bin replaces another one. -/
theorem fillBins_eq_ok {bins : List (String × Value)} {d d' : Entries}
    (hnames : (bins.map (·.1)).Nodup)
    (hfresh : ∀ e ∈ d, ∀ b ∈ bins, pyEq e.1 (.str b.1) = false) :
    fillBins rt bins d = .ok d' ↔ ∃ es, d' = d ++ es ∧
      List.Forall₂ (fun b e => e.1 = PyObj.str b.1 ∧ valueToPy rt b.2 = .ok e.2) bins es := by
  induction bins generalizing d with
  | nil =>
    rw [fillBins, Except.ok.injEq]
    constructor
    · intro h
      exact ⟨[], by rw [h, List.append_nil], .nil⟩
    · intro h
      obtain ⟨es, rfl, hes⟩ := h
      rw [List.forall₂_nil_left_iff.mp hes, List.append_nil]
  | cons b bins ih =>
    obtain ⟨name, value⟩ := b
    rw [List.map_cons, List.nodup_cons] at hnames
    have hset : ∀ v, setItem d (.str name) v = .ok (d ++ [(.str name, v)]) := fun v =>
      setItem_eq_ok.mpr ⟨rfl, Assoc.insert_of_fresh (fun e he => hfresh e he _ List.mem_cons_self) v⟩
    have hfresh' : ∀ v, ∀ e ∈ d ++ [(PyObj.str name, v)], ∀ b ∈ bins,
        pyEq e.1 (.str b.1) = false := by
      intro v e he b hb
      rcases List.mem_append.mp he with he | he
      · exact hfresh e he b (List.mem_cons_of_mem _ hb)
      · rw [List.mem_singleton.mp he, pyEq_str, decide_eq_false_iff_not]
        intro heq
        exact hnames.1 (List.mem_map.mpr ⟨b, hb, (PyStr.utf8.inj heq).symm⟩)
    rw [fillBins]
    simp only [bind_eq_ok, hset]
    constructor
    · intro h
      obtain ⟨v, hv, _, hd, h⟩ := h
      obtain rfl := Except.ok.inj hd
      obtain ⟨es, rfl, hes⟩ := (ih hnames.2 (hfresh' v)).mp h
      exact ⟨(.str name, v) :: es, by simp, .cons ⟨rfl, hv⟩ hes⟩
    · intro h
      obtain ⟨es, rfl, hes⟩ := h
      obtain ⟨e, rest, he, hrest, rfl⟩ := List.forall₂_cons_left_iff.mp hes
      obtain ⟨key, v⟩ := e
      obtain ⟨rfl, hv⟩ := he
      exact ⟨v, hv, _, rfl, (ih hnames.2 (hfresh' v)).mpr ⟨rest, by simp, hrest⟩⟩

/-- The bins of a record, in a dict with an entry for each. -/
theorem binsToPy_eq_ok {record : Record} {obj : PyObj} :
    binsToPy rt record = .ok obj ↔ ∃ es, obj = .dict es ∧
      List.Forall₂ (fun b e => e.1 = PyObj.str b.1 ∧ valueToPy rt b.2 = .ok e.2)
        record.bins es := by
  have hfill := fun d => @fillBins_eq_ok rt record.bins [] d record.distinct nofun
  rw [binsToPy, bind_eq_ok]
  constructor
  · intro h
    obtain ⟨d, hd, h⟩ := h
    obtain ⟨es, hd, hes⟩ := (hfill d).mp hd
    rw [List.nil_append] at hd
    exact ⟨es, by rw [← hd]; exact (Except.ok.inj h).symm, hes⟩
  · intro h
    obtain ⟨es, rfl, hes⟩ := h
    exact ⟨es, (hfill es).mpr ⟨es, rfl, hes⟩, rfl⟩

/-- The records that `__len__` counts. -/
def isFound (br : BatchRecord Key Record) : Bool :=
  br.key.userKey.isSome && isOk br && br.record.isSome

theorem addToDict_of_found {br : BatchRecord Key Record} (h : isFound br = true)
    (dict : Entries) :
    addToDict rt dict br = (do
      let key ← userKeyOrNone rt br
      let bins ← slotToPy rt br
      setItem dict key bins) := by
  unfold isFound at h
  unfold addToDict userKeyOrNone slotToPy
  cases hkey : br.key.userKey with
  | none => simp [hkey] at h
  | some userKey =>
    cases hrecord : br.record with
    | none => simp [hrecord] at h
    | some record =>
      have hok : isOk br = true := by simpa [hkey, hrecord] using h
      simp [hok]

/-- Of a record that it skips, the dict needs the user key to convert all the same. -/
theorem addToDict_of_not_found {br : BatchRecord Key Record} (h : isFound br = false)
    (dict : Entries) :
    addToDict rt dict br = (do
      let _ ← userKeyOrNone rt br
      return dict) := by
  unfold isFound at h
  unfold addToDict userKeyOrNone
  cases hkey : br.key.userKey with
  | none => rfl
  | some userKey =>
    refine bind_congr_ok fun key _ => ?_
    by_cases hok : isOk br = true
    · cases hrecord : br.record with
      | none => simp
      | some record => simp [hkey, hrecord, hok] at h
    · rw [if_pos (by simpa using hok)]

/-- The entry that a found record becomes. -/
def EntryOf (rt : Runtime) (br : BatchRecord Key Record) (e : PyObj × PyObj) : Prop :=
  userKeyOrNone rt br = .ok e.1 ∧ slotToPy rt br = .ok e.2

theorem addAll_eq_ok {results : Results} {d d' : Entries} :
    results.foldlM (addToDict rt) d = .ok d' ↔
      (∀ br ∈ results, ∃ key, userKeyOrNone rt br = .ok key) ∧
      ∃ es, List.Forall₂ (EntryOf rt) (results.filter isFound) es ∧
        (∀ e ∈ es, e.1.hashable = true) ∧ d' = Assoc.insertAll pyEq d es := by
  induction results generalizing d with
  | nil =>
    rw [List.foldlM_nil]
    constructor
    · intro h
      exact ⟨by simp, [], .nil, by simp, (Except.ok.inj h).symm⟩
    · intro h
      obtain ⟨-, es, hes, -, rfl⟩ := h
      rw [List.forall₂_nil_left_iff.mp hes]
      rfl
  | cons br results ih =>
    rw [List.foldlM_cons, bind_eq_ok, List.forall_mem_cons]
    by_cases hfound : isFound br = true
    · rw [List.filter_cons_of_pos hfound, addToDict_of_found hfound]
      constructor
      · intro h
        obtain ⟨d₁, hd₁, h⟩ := h
        obtain ⟨key, hkey, hd₁⟩ := bind_eq_ok.mp hd₁
        obtain ⟨bins, hbins, hset⟩ := bind_eq_ok.mp hd₁
        obtain ⟨hhash, rfl⟩ := setItem_eq_ok.mp hset
        obtain ⟨hkeys, es, hes, hall, rfl⟩ := ih.mp h
        exact ⟨⟨⟨key, hkey⟩, hkeys⟩, (key, bins) :: es, .cons ⟨hkey, hbins⟩ hes,
          List.forall_mem_cons.mpr ⟨hhash, hall⟩, rfl⟩
      · intro h
        obtain ⟨⟨-, hkeys⟩, es, hes, hall, rfl⟩ := h
        obtain ⟨e, es', he, hes', rfl⟩ := List.forall₂_cons_left_iff.mp hes
        obtain ⟨hhash, hall⟩ := List.forall_mem_cons.mp hall
        refine ⟨Assoc.insert pyEq d e.1 e.2, ?_, ih.mpr ⟨hkeys, es', hes', hall, rfl⟩⟩
        exact bind_eq_ok.mpr ⟨e.1, he.1, bind_eq_ok.mpr ⟨e.2, he.2, setItem_eq_ok.mpr ⟨hhash, rfl⟩⟩⟩
    · rw [List.filter_cons_of_neg hfound, addToDict_of_not_found (by simpa using hfound)]
      constructor
      · intro h
        obtain ⟨d₁, hd₁, h⟩ := h
        obtain ⟨key, hkey, hd₁⟩ := bind_eq_ok.mp hd₁
        obtain rfl := Except.ok.inj hd₁
        obtain ⟨hkeys, hrest⟩ := ih.mp h
        exact ⟨⟨⟨key, hkey⟩, hkeys⟩, hrest⟩
      · intro h
        obtain ⟨⟨⟨key, hkey⟩, hkeys⟩, hrest⟩ := h
        exact ⟨d, bind_eq_ok.mpr ⟨key, hkey, rfl⟩, ih.mpr ⟨hkeys, hrest⟩⟩

/-- The dict is made by inserting the found records one by one, under hashable keys. -/
theorem batchToDictPy_eq_ok {results : Results} {d : Entries} :
    batchToDictPy rt results = .ok d ↔
      (∀ br ∈ results, ∃ key, userKeyOrNone rt br = .ok key) ∧
      ∃ es, List.Forall₂ (EntryOf rt) (results.filter isFound) es ∧
        (∀ e ∈ es, e.1.hashable = true) ∧ d = Assoc.ofList pyEq es := addAll_eq_ok

/-- A slot is not `None` when the record has code Ok and a body. -/
theorem slotToPy_not_none {br : BatchRecord Key Record} {slot : PyObj}
    (h : slotToPy rt br = .ok slot) :
    slot.isNone = false ↔ isOk br = true ∧ br.record.isSome = true := by
  unfold slotToPy at h
  by_cases hok : isOk br = true
  · rw [if_neg (by simp [hok])] at h
    cases hrecord : br.record with
    | none =>
      rw [hrecord] at h
      obtain rfl := Except.ok.inj h
      simp [PyObj.isNone]
    | some record =>
      rw [hrecord] at h
      obtain ⟨es, rfl, -⟩ := binsToPy_eq_ok.mp h
      simp [PyObj.isNone, hok]
  · rw [if_pos (by simpa using hok)] at h
    obtain rfl := Except.ok.inj h
    simp [PyObj.isNone, hok]

theorem collect_eq {it : PyBatchReadIter} {room : Nat}
    (hroom : it.inner.length - it.index < room) :
    it.collect rt room = (it.inner.drop it.index).mapM (singleBatchRecordToPy rt) := by
  induction room generalizing it with
  | zero => omega
  | succ room ih =>
    obtain ⟨inner, index⟩ := it
    dsimp only at hroom ⊢
    rw [PyBatchReadIter.collect, PyBatchReadIter.next]
    dsimp only
    by_cases hindex : index < inner.length
    · rw [List.getElem?_eq_getElem hindex, List.drop_eq_getElem_cons hindex, List.mapM_cons]
      have hrest := @ih ⟨inner, index + 1⟩ (by dsimp only; omega)
      simp only [hrest]
      cases singleBatchRecordToPy rt inner[index] with
      | error e => rfl
      | ok br => rfl
    · rw [List.getElem?_eq_none (by omega), List.drop_of_length_le (by omega), List.mapM_nil]
      rfl

end AerospikePy.Batch
