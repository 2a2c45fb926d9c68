import AerospikePy.Batch.ReadArgs
import AerospikePy.Batch.Views
import AerospikePy.Operations.Ordered
import AerospikePy.Query.Stream

/-!
# Reading one by one and in a batch

`get`, `select`, `exists` and `batch_read` of `client.rs`. What a batch shows of a key is
what the call for that key alone returns or raises, if the core serves a read in a batch as
it does by itself.
-/

namespace AerospikePy.Batch

open AerospikePy.Core
open AerospikePy.Errors
open AerospikePy.Keys
open AerospikePy.Lib
open AerospikePy.Lib.Fallible
open AerospikePy.Operations (recordToMeta)
open AerospikePy.Policies
open AerospikePy.Python
open AerospikePy.Query (propagate)
open AerospikePy.Values

/-- What awaiting an operation of the core comes to. -/
inductive Served (T : Type) where
  | answered (result : Except AsError T)
  | panics (msg : String)

/-- The reads of `aerospike_core::Client`, while the records stay as they are. -/
structure ReadClient where
  get : ReadPolicy → Key → Bins → Served Record
  batch : BatchPolicy → List BatchRead → Served Results

def catchPanicSync {T : Type} (op : String) : Served T → Query.Outcome T
  | .answered result => .ok result
  | .panics msg => .error ⟨.rustPanicError, s!"Rust panic in `{op}`: {msg}"⟩

def python {T : Type} : Except PyErr T → Except Query.Raised T := Except.mapError .python

section Calls

variable (crates : BatchCrates) (rt : Runtime) (texts : ErrorTexts) (core : ReadClient)
  (clock : Clock)

def doGet (args : GetArgs) : Served Record := core.get (args.policy.readPolicy crates) args.key .all

def doSelect (args : SelectArgs) : Served Record :=
  core.get (args.policy.readPolicy crates) args.key args.binsSelector

def doExists (args : ExistsArgs) : Served Record := core.get args.readPolicy args.key .none

def doBatchRead (args : BatchReadArgs) : Served Results :=
  core.batch args.batchPolicy args.toBatchOps

/-- The conversion of a `PendingExists`; the sync client writes it out. A record that is not
found is no error. -/
def pendingExistsToPy (keyPy : PyObj) : Except AsError Record → Except Query.Raised PyObj
  | .ok record => .ok (.tuple [keyPy, recordToMeta clock record])
  | .error (.serverError .keyNotFoundError _ _) => .ok (.tuple [keyPy, .none])
  | .error e => .error (.core (asToPyerr texts e).1)

namespace PyClient

def get (key : PyObj) (policy : Option Entries) : Except Query.Raised PyObj := do
  let args ← python (prepareGetArgs crates rt key policy)
  let keyPy ← python (keyToPy rt args.key)
  let record ← propagate texts (catchPanicSync "Client.get" (doGet crates core args))
  python (recordToPyWithKey rt clock record keyPy)

def select (key : PyObj) (bins : List PyObj) (policy : Option Entries) :
    Except Query.Raised PyObj := do
  let args ← python (prepareSelectArgs crates rt key bins policy)
  let keyPy ← python (keyToPy rt args.key)
  let record ← propagate texts (catchPanicSync "Client.select" (doSelect crates core args))
  python (recordToPyWithKey rt clock record keyPy)

/-- `exists`. -/
def existsKey (key : PyObj) (policy : Option Entries) : Except Query.Raised PyObj := do
  let args ← python (prepareExistsArgs crates rt key policy)
  let keyPy ← python (keyToPy rt args.key)
  let result ← python (catchPanicSync "Client.exists" (doExists core args))
  pendingExistsToPy texts clock keyPy result

def batchRead {heap : Nat → PyObj} (keys : List (KeyArg heap)) (bins : Option (List String))
    (policy : Option Entries) : Except Query.Raised Handle := do
  let args ← python (prepareBatchReadArgs crates rt keys bins policy)
  let results ← propagate texts (catchPanicSync "Client.batch_read" (doBatchRead core args))
  return fromResults results

end PyClient

/-- `get` and `select` after their arguments. -/
def readAs (op : String) (key : Key) (served : Served Record) : Except Query.Raised PyObj := do
  let keyPy ← python (keyToPy rt key)
  let record ← propagate texts (catchPanicSync op served)
  python (recordToPyWithKey rt clock record keyPy)

/-- `exists` after its arguments. -/
def existenceOf (key : Key) (served : Served Record) : Except Query.Raised PyObj := do
  let keyPy ← python (keyToPy rt key)
  let result ← python (catchPanicSync "Client.exists" served)
  pendingExistsToPy texts clock keyPy result

/-- The call for one key that reads the bins of a batch. -/
def readOne (bins : Option (List String)) (policy : Option Entries) (key : PyObj) :
    Except Query.Raised PyObj :=
  match bins with
  | none => PyClient.get crates rt texts core clock key policy
  | some names =>
    PyClient.select crates rt texts core clock key (names.map fun s => .str (.utf8 s)) policy

/-- The item of a key in `{user_key: bins}`, if it has a user key and its record is read. -/
def itemOf (bins : Option (List String)) (policy : Option Entries) (key : PyObj) :
    Option (PyObj × PyObj) :=
  match pyToKey crates.keys rt key, readOne crates rt texts core clock bins policy key with
  | .ok k, .ok (.tuple [_, _, binsPy]) => do
    let userKey ← k.userKey
    let userKeyPy ← (userKeyToPy rt userKey).toOption
    return (userKeyPy, binsPy)
  | _, _ => none

end Calls

/-- The entry of a batch has what the server answers to the same read by itself. -/
inductive AnswersAs : Served Record → BatchRecord Key Record → Prop
  | record {record : Record} {br : BatchRecord Key Record} (hok : isOk br = true)
      (hrecord : br.record = some record) (hkey : ∀ key ∈ record.key, key = br.key) :
      AnswersAs (.answered (.ok record)) br
  | refused {rc : ResultCode} {inDoubt : Bool} {node : String} {br : BatchRecord Key Record}
      (hcode : br.resultCode = some rc) (hrefused : rc ≠ .ok) (hwire : FromWire rc)
      (hnone : br.record = none) : AnswersAs (.answered (.error (.serverError rc inDoubt node))) br

/-- A batch that is answered has an entry for each read, in order. -/
def ServesAlike (core : ReadClient) : Prop :=
  ∀ batchPolicy ops results, core.batch batchPolicy ops = .answered (.ok results) →
    List.Forall₂ (fun op br => br.key = op.key ∧
      AnswersAs (core.get (asRead batchPolicy op.policy) op.key op.bins) br) ops results

/-- What a call returns or raises, as an entry of a batch has it. -/
inductive ShownIn (rt : Runtime) (clock : Clock) :
    Except Query.Raised PyObj → Except PyErr PyBatchRecord → Prop
  | badKey {e : PyErr} : ShownIn rt clock (.error (.python e)) (.error e)
  | found {got : Except Query.Raised PyObj} {entry : PyBatchRecord} (hresult : entry.result = 0)
      (hgot : got = python (entry.record rt clock)) : ShownIn rt clock got (.ok entry)
  | refused {exc : AerospikeException} {entry : PyBatchRecord}
      (hresult : entry.result = exc.resultCode) (hne : entry.result ≠ 0)
      (hnone : entry.record rt clock = .ok .none) :
      ShownIn rt clock (.error (.core exc)) (.ok entry)

/-- The same of `exists`, for which code 2 is an answer. -/
inductive ExistenceShownIn (rt : Runtime) (clock : Clock) :
    Except Query.Raised PyObj → Except PyErr PyBatchRecord → Prop
  | badKey {e : PyErr} : ExistenceShownIn rt clock (.error (.python e)) (.error e)
  | found {got : Except Query.Raised PyObj} {entry : PyBatchRecord} {metaDict : PyObj}
      (hresult : entry.result = 0) (hgot : got = .ok (.tuple [entry.key, metaDict]))
      (hrecord : ∀ obj, entry.record rt clock = .ok obj →
        ∃ bins, obj = .tuple [entry.key, metaDict, bins]) :
      ExistenceShownIn rt clock got (.ok entry)
  | missing {got : Except Query.Raised PyObj} {entry : PyBatchRecord} (hresult : entry.result = 2)
      (hgot : got = .ok (.tuple [entry.key, .none])) (hnone : entry.record rt clock = .ok .none) :
      ExistenceShownIn rt clock got (.ok entry)
  | refused {exc : AerospikeException} {entry : PyBatchRecord}
      (hresult : entry.result = exc.resultCode) (hne : entry.result ≠ 0 ∧ entry.result ≠ 2)
      (hnone : entry.record rt clock = .ok .none) :
      ExistenceShownIn rt clock (.error (.core exc)) (.ok entry)

variable {crates : BatchCrates} {rt : Runtime} {texts : ErrorTexts} {core : ReadClient}
  {clock : Clock} {served : Served Record} {br : BatchRecord Key Record} {keyPy : PyObj}

theorem singleBatchRecordToPy_of_key (hkey : keyToPy rt br.key = .ok keyPy) :
    singleBatchRecordToPy rt br = .ok ⟨keyPy, resultOf br,
      (match br.record with
        | some record => .pending record keyPy
        | none => .none), br.inDoubt⟩ := by
  unfold singleBatchRecordToPy
  rw [hkey]
  rfl

theorem singleBatchRecordToPy_of_bad_key {e : PyErr} (hkey : keyToPy rt br.key = .error e) :
    singleBatchRecordToPy rt br = .error e := by
  unfold singleBatchRecordToPy
  rw [hkey]
  rfl

theorem record_pending {result : Int} {record : Record} {inDoubt : Bool} :
    PyBatchRecord.record rt clock ⟨keyPy, result, .pending record keyPy, inDoubt⟩ =
      recordToPyWithKey rt clock record keyPy := by
  dsimp only [PyBatchRecord.record, LazyRecordCell.toPython]
  cases recordToPyWithKey rt clock record keyPy with
  | error e => rfl
  | ok obj => rfl

theorem resultOf_of_isOk (h : isOk br = true) : resultOf br = 0 := by
  unfold isOk at h
  unfold resultOf
  split at h
  case h_1 hcode => rw [hcode]
  case h_2 hcode =>
    rw [hcode]
    rfl
  case h_3 => cases h

theorem resultOf_of_code {rc : ResultCode} (h : br.resultCode = some rc) :
    resultOf br = resultCodeToInt rc := by
  unfold resultOf
  rw [h]

/-- On the wire, 0 is the code of success and 2 that of a missing record. -/
theorem eq_of_code {rc listed : ResultCode} (hlisted : listed = .ok ∨ listed = .keyNotFoundError)
    (hwire : FromWire rc) (h : resultCodeToInt rc = resultCodeToInt listed) : rc = listed := by
  cases rc with
  | unknown code =>
    refine absurd h.symm (hwire code rfl listed fun c => ?_)
    rcases hlisted with rfl | rfl <;> simp
  | _ =>
    rcases hlisted with rfl | rfl <;> first
      | rfl
      | exact absurd h (by decide)

/-- What `get` and `select` return or raise is in the entry. -/
theorem shownIn_readAs (op : String) (h : AnswersAs served br) :
    ShownIn rt clock (readAs rt texts clock op br.key served) (singleBatchRecordToPy rt br) := by
  cases hkey : keyToPy rt br.key with
  | error e =>
    have hread : readAs rt texts clock op br.key served = .error (.python e) := by
      unfold readAs
      rw [hkey]
      rfl
    rw [singleBatchRecordToPy_of_bad_key hkey, hread]
    exact .badKey
  | ok keyPy =>
    rw [singleBatchRecordToPy_of_key hkey]
    unfold readAs
    rw [hkey]
    cases h with
    | record hok hrecord =>
      rw [hrecord]
      refine .found (resultOf_of_isOk hok) ?_
      rw [record_pending]
      rfl
    | @refused rc inDoubt node br hcode hrefused hwire hnone =>
      rw [hnone]
      have hresult := resultOf_of_code hcode
      refine .refused hresult ?_ rfl
      intro h0
      exact hrefused (eq_of_code (.inl rfl) hwire (hresult.symm.trans h0))

theorem recordToPyWithKey_of_key {record : Record} {obj : PyObj}
    (hkey : ∀ key ∈ record.key, key = br.key) (hkeyPy : keyToPy rt br.key = .ok keyPy) :
    recordToPyWithKey rt clock record keyPy = .ok obj ↔
      ∃ bins, binsToPy rt record = .ok bins ∧
        obj = .tuple [keyPy, recordToMeta clock record, bins] := by
  have hrecordKey : recordKeyToPy rt record none (some keyPy) = .ok keyPy := by
    unfold recordKeyToPy
    cases hrecord : record.key with
    | none => rfl
    | some key =>
      obtain rfl := hkey key hrecord
      exact hkeyPy
  unfold recordToPyWithKey recordToPyInner
  rw [hrecordKey, ok_bind, bind_eq_ok]
  exact exists_congr fun bins => and_congr_right fun _ => by
    rw [pure_eq_ok, Except.ok.injEq]
    exact eq_comm

theorem pendingExistsToPy_refused {rc : ResultCode} (hne : rc ≠ .keyNotFoundError)
    (inDoubt : Bool) (node : String) :
    pendingExistsToPy texts clock keyPy (.error (.serverError rc inDoubt node)) =
      .error (.core (asToPyerr texts (.serverError rc inDoubt node)).1) := by
  cases rc with
  | keyNotFoundError => exact absurd rfl hne
  | _ => rfl

/-- What `exists` returns or raises is in the entry. -/
theorem existenceShownIn_existenceOf (h : AnswersAs served br) :
    ExistenceShownIn rt clock (existenceOf rt texts clock br.key served)
      (singleBatchRecordToPy rt br) := by
  cases hkey : keyToPy rt br.key with
  | error e =>
    have hread : existenceOf rt texts clock br.key served = .error (.python e) := by
      unfold existenceOf
      rw [hkey]
      rfl
    rw [singleBatchRecordToPy_of_bad_key hkey, hread]
    exact .badKey
  | ok keyPy =>
    rw [singleBatchRecordToPy_of_key hkey]
    unfold existenceOf
    rw [hkey]
    cases h with
    | @record record br hok hrecord hrecordKey =>
      rw [hrecord]
      refine .found (resultOf_of_isOk hok) rfl fun obj hobj => ?_
      rw [record_pending] at hobj
      obtain ⟨bins, -, hobj⟩ := (recordToPyWithKey_of_key hrecordKey hkey).mp hobj
      exact ⟨bins, hobj⟩
    | @refused rc inDoubt node br hcode hrefused hwire hnone =>
      rw [hnone]
      have hresult := resultOf_of_code hcode
      by_cases hmissing : rc = .keyNotFoundError
      · subst hmissing
        exact .missing hresult rfl rfl
      · have h0 : resultOf br ≠ 0 := fun h0 =>
          hrefused (eq_of_code (.inl rfl) hwire (hresult.symm.trans h0))
        have h2 : resultOf br ≠ 2 := fun h2 =>
          hmissing (eq_of_code (.inr rfl) hwire (hresult.symm.trans h2))
        have hraised := @pendingExistsToPy_refused texts clock keyPy rc hmissing inDoubt node
        have hread : (do
            let keyPy ← python (.ok keyPy)
            let result ← python (catchPanicSync "Client.exists"
              (.answered (.error (.serverError rc inDoubt node))))
            pendingExistsToPy texts clock keyPy result) = _ := hraised
        rw [hread]
        exact .refused hresult ⟨h0, h2⟩ rfl

theorem python_eq_ok {T : Type} {x : Except PyErr T} {t : T} : python x = .ok t ↔ x = .ok t := by
  cases x <;> simp [python, Except.mapError]

theorem answered_of_propagate {T : Type} {op : String} {served : Served T} {t : T}
    (h : propagate texts (catchPanicSync op served) = .ok t) : served = .answered (.ok t) := by
  cases served with
  | answered result =>
    cases result with
    | ok t' => rw [Except.ok.inj h]
    | error e => cases h
  | panics msg => cases h

section OneKey

variable {key : PyObj} {k : Key} {policy : Option Entries} {parsed : ReadPolicy}

theorem get_eq_readAs (hkey : pyToKey crates.keys rt key = .ok k)
    (hparse : parseReadPolicy crates.policies rt policy = .ok parsed) :
    PyClient.get crates rt texts core clock key policy =
      readAs rt texts clock "Client.get" k (core.get parsed k .all) := by
  obtain ⟨choice, hchoice, rfl⟩ := readPolicyChoice_of_parse hparse
  have hargs : prepareGetArgs crates rt key policy = .ok ⟨k, choice⟩ := by
    rw [prepareGetArgs, hkey, ok_bind, hchoice]
    rfl
  unfold PyClient.get
  rw [hargs]
  rfl

theorem select_eq_readAs (names : List String) (hkey : pyToKey crates.keys rt key = .ok k)
    (hparse : parseReadPolicy crates.policies rt policy = .ok parsed) :
    PyClient.select crates rt texts core clock key (names.map fun s => .str (.utf8 s)) policy =
      readAs rt texts clock "Client.select" k (core.get parsed k (.some names)) := by
  obtain ⟨choice, hchoice, rfl⟩ := readPolicyChoice_of_parse hparse
  have hargs : prepareSelectArgs crates rt key (names.map fun s => .str (.utf8 s)) policy =
      .ok ⟨k, names, choice⟩ := by
    rw [prepareSelectArgs, hkey, ok_bind, mapM_extractString, ok_bind, hchoice]
    rfl
  unfold PyClient.select
  rw [hargs]
  rfl

theorem existsKey_eq_existenceOf (hkey : pyToKey crates.keys rt key = .ok k)
    (hparse : parseReadPolicy crates.policies rt policy = .ok parsed) :
    PyClient.existsKey crates rt texts core clock key policy =
      existenceOf rt texts clock k (core.get parsed k .none) := by
  have hargs : prepareExistsArgs crates rt key policy = .ok ⟨k, parsed⟩ := by
    rw [prepareExistsArgs, hkey, ok_bind]
    cases policy with
    | none => rw [← Except.ok.inj hparse]; rfl
    | some dict =>
      dsimp only
      rw [hparse]
      rfl
  unfold PyClient.existsKey
  rw [hargs]
  rfl

/-- `get` and `select` differ from each other in the bins alone. -/
theorem readOne_eq_readAs {bins : Option (List String)} (hbins : bins ≠ some [])
    (hkey : pyToKey crates.keys rt key = .ok k)
    (hparse : parseReadPolicy crates.policies rt policy = .ok parsed) :
    ∃ op, readOne crates rt texts core clock bins policy key =
      readAs rt texts clock op k (core.get parsed k (binsSelector bins)) := by
  cases bins with
  | none => exact ⟨_, get_eq_readAs hkey hparse⟩
  | some names =>
    cases names with
    | nil => exact absurd rfl hbins
    | cons name names => exact ⟨_, select_eq_readAs (name :: names) hkey hparse⟩

end OneKey

section Entries

variable {heap : Nat → PyObj} {keys : List (KeyArg heap)} {bins : Option (List String)}
  {policy : Option Entries} {h : Handle}

/-- A key and the entry of its read. -/
structure ReadEntry (crates : BatchCrates) (rt : Runtime) (core : ReadClient) (parsed : ReadPolicy)
    (bins : Option (List String)) (key : KeyArg heap) (br : BatchRecord Key Record) : Prop where
  key : pyToKey crates.keys rt key.obj = .ok br.key
  answer : AnswersAs (core.get parsed br.key (binsSelector bins)) br

theorem entries_of_batchRead
    (hdefaults : crates.policies.read = asRead crates.policies.batch crates.policies.batchRead)
    (hcore : ServesAlike core)
    (hread : PyClient.batchRead crates rt texts core keys bins policy = .ok h) :
    ∃ parsed, parseReadPolicy crates.policies rt policy = .ok parsed ∧
      List.Forall₂ (ReadEntry crates rt core parsed bins) keys h.inner := by
  obtain ⟨args, hargs, hread⟩ := bind_eq_ok.mp hread
  obtain ⟨results, hresults, hread⟩ := bind_eq_ok.mp hread
  obtain rfl := Except.ok.inj hread
  obtain ⟨batchPolicy, hbatch, hargs⟩ := bind_eq_ok.mp (python_eq_ok.mp hargs)
  obtain ⟨readPolicy, hpolicy, hargs⟩ := bind_eq_ok.mp hargs
  obtain ⟨rustKeys, hkeys, hargs⟩ := bind_eq_ok.mp hargs
  obtain rfl := Except.ok.inj hargs
  refine ⟨asRead batchPolicy readPolicy, parseReadPolicy_eq_asRead hdefaults hbatch hpolicy, ?_⟩
  have hentries := hcore _ _ _ (answered_of_propagate hresults)
  unfold BatchReadArgs.toBatchOps at hentries
  rw [List.forall₂_map_left_iff] at hentries
  refine (forall₂_comp (pyToKeys_eq_ok.mp hkeys) hentries).imp fun key br hboth => ?_
  obtain ⟨k, hkey, hk, hanswer⟩ := hboth
  dsimp only at hk hanswer
  subst hk
  exact ⟨hkey, hanswer⟩

section Items

variable {key : KeyArg heap} {parsed : ReadPolicy}

theorem itemOf_of_found (hbins : bins ≠ some [])
    (hparse : parseReadPolicy crates.policies rt policy = .ok parsed)
    (hentry : ReadEntry crates rt core parsed bins key br) (hfound : isFound br = true)
    {e : PyObj × PyObj} (he : EntryOf rt br e) :
    itemOf crates rt texts core clock bins policy key.obj = some e := by
  obtain ⟨⟨⟨userKey, huserKey⟩, hok⟩, -⟩ : ((∃ v, br.key.userKey = some v) ∧ isOk br = true) ∧
      br.record.isSome = true := by
    simpa [isFound, Option.isSome_iff_exists] using hfound
  obtain ⟨hkeyPy, hslot⟩ := he
  have huser : userKeyToPy rt userKey = .ok e.1 := by
    unfold userKeyOrNone at hkeyPy
    rwa [huserKey] at hkeyPy
  have hkeyToPy : ∃ keyPy, keyToPy rt br.key = .ok keyPy := by
    rw [userKeyToPy_eq] at huser
    unfold keyToPy
    rw [huserKey]
    exact ⟨_, bind_of_eq_ok huser _⟩
  obtain ⟨keyPy, hkeyToPy⟩ := hkeyToPy
  have hanswer := hentry.answer
  obtain ⟨op, hread⟩ := @readOne_eq_readAs crates rt texts core clock _ _ _ _ bins hbins hentry.key
    hparse
  unfold itemOf
  rw [hentry.key, hread]
  generalize core.get parsed br.key (binsSelector bins) = served at hanswer
  cases hanswer with
  | @record record _ _ hrecord hrecordKey =>
    have hbody : binsToPy rt record = .ok e.2 := by
      unfold slotToPy at hslot
      rwa [if_neg (by simp [hok]), hrecord] at hslot
    have htuple : recordToPyWithKey rt clock record keyPy =
        .ok (.tuple [keyPy, recordToMeta clock record, e.2]) :=
      (recordToPyWithKey_of_key hrecordKey hkeyToPy).mpr ⟨e.2, hbody, rfl⟩
    have hgot : readAs rt texts clock op br.key (.answered (.ok record)) =
        .ok (.tuple [keyPy, recordToMeta clock record, e.2]) := by
      unfold readAs
      rw [hkeyToPy]
      exact congrArg python htuple
    rw [hgot]
    simp [huserKey, huser, Except.toOption]
  | refused hcode hrefused hwire =>
    have hcode' := (resultOf_of_code hcode).symm.trans (resultOf_of_isOk hok)
    exact absurd (eq_of_code (.inl rfl) hwire hcode') hrefused

theorem readAs_failed (op : String) (key : Key) (e : AsError) :
    ∃ raised, readAs rt texts clock op key (.answered (.error e)) = .error raised := by
  unfold readAs
  cases keyToPy rt key with
  | error e' => exact ⟨_, rfl⟩
  | ok keyPy => exact ⟨_, rfl⟩

theorem itemOf_of_not_found (hbins : bins ≠ some [])
    (hparse : parseReadPolicy crates.policies rt policy = .ok parsed)
    (hentry : ReadEntry crates rt core parsed bins key br) (hnot : isFound br = false) :
    itemOf crates rt texts core clock bins policy key.obj = none := by
  have hanswer := hentry.answer
  obtain ⟨op, hread⟩ := @readOne_eq_readAs crates rt texts core clock _ _ _ _ bins hbins hentry.key
    hparse
  unfold itemOf
  rw [hentry.key, hread]
  generalize core.get parsed br.key (binsSelector bins) = served at hanswer
  cases hanswer with
  | @record record _ hok hrecord =>
    have huserKey : br.key.userKey = none := by
      simpa [isFound, hok, hrecord] using hnot
    split
    case h_1 k _ hk _ =>
      obtain rfl := Except.ok.inj hk
      rw [huserKey]
      rfl
    case h_2 => rfl
  | @refused rc inDoubt node =>
    obtain ⟨raised, hraised⟩ :=
      @readAs_failed rt texts clock op br.key (.serverError rc inDoubt node)
    rw [hraised]

/-- The found records of a batch are the items of the calls one by one. -/
theorem items_of_entries (hbins : bins ≠ some [])
    (hparse : parseReadPolicy crates.policies rt policy = .ok parsed) {results : Results}
    (hentries : List.Forall₂ (ReadEntry crates rt core parsed bins) keys results)
    {es : List (PyObj × PyObj)}
    (hes : List.Forall₂ (EntryOf rt) (results.filter isFound) es) :
    keys.filterMap (fun key => itemOf crates rt texts core clock bins policy key.obj) = es := by
  induction hentries generalizing es with
  | nil =>
    rw [List.filter_nil, List.forall₂_nil_left_iff] at hes
    rw [hes, List.filterMap_nil]
  | @cons key br keys results hentry _ ih =>
    by_cases hfound : isFound br = true
    · rw [List.filter_cons_of_pos hfound, List.forall₂_cons_left_iff] at hes
      obtain ⟨e, es, he, hes, rfl⟩ := hes
      have hitem : itemOf crates rt texts core clock bins policy key.obj = some e :=
        itemOf_of_found hbins hparse hentry hfound he
      rw [List.filterMap_cons, hitem, ← ih hes]
    · rw [List.filter_cons_of_neg hfound] at hes
      have hitem : itemOf crates rt texts core clock bins policy key.obj = none :=
        itemOf_of_not_found hbins hparse hentry (by simpa using hfound)
      rw [List.filterMap_cons, hitem, ih hes]

end Items

end Entries

theorem toDict_of_returned {repr : Repr} {results : Results} {d : Entries}
    (h : ((fromResults results).perform rt repr (.view .toDict) .completes).1 =
      .returned (.dict d)) : batchToDictPy rt results = .ok d := by
  cases hdict : batchToDictPy rt results with
  | error e => simp [Handle.perform, Handle.materialise, fromResults, hdict] at h
  | ok d' =>
    have hd : d' = d := by
      simpa [Handle.perform, Handle.materialise, fromResults, hdict, View.answer,
        Outcome.ofExcept] using h
    rw [hd]

/-- `batch_read` takes what `get` takes for every key, if the settings of a batch are in
order. The entry of a key has what `get` or `select` returns for it, or the code of what it
raises, and for an empty list of bins what `exists` does. `to_dict` has the bins of those
that return. -/
theorem batch_reads_one_by_one (crates : BatchCrates) (rt : Runtime) (texts : ErrorTexts)
    (core : ReadClient) (clock : Clock) (repr : Repr)
    (hdefaults : crates.policies.read = asRead crates.policies.batch crates.policies.batchRead)
    (hcore : ServesAlike core) {heap : Nat → PyObj} (keys : List (KeyArg heap))
    (bins : Option (List String)) (policy : Option Entries) :
    (Succeeds (prepareBatchReadArgs crates rt keys bins policy) ↔
      (∀ dict ∈ policy, BatchSettings dict) ∧
        Succeeds (parseReadPolicy crates.policies rt policy) ∧
          ∀ key ∈ keys, Succeeds (prepareGetArgs crates rt key.obj policy)) ∧
    ∀ h, PyClient.batchRead crates rt texts core keys bins policy = .ok h →
      (bins ≠ some [] →
        List.Forall₂ (fun key br =>
          ShownIn rt clock (readOne crates rt texts core clock bins policy key.obj)
            (singleBatchRecordToPy rt br)) keys h.inner ∧
        ∀ d, (h.perform rt repr (.view .toDict) .completes).1 = .returned (.dict d) →
          d = Assoc.ofList pyEq
            (keys.filterMap fun key => itemOf crates rt texts core clock bins policy key.obj)) ∧
      (bins = some [] →
        List.Forall₂ (fun key br =>
          ExistenceShownIn rt clock
            (PyClient.existsKey crates rt texts core clock key.obj policy)
            (singleBatchRecordToPy rt br)) keys h.inner) := by
  refine ⟨succeeds_prepareBatchReadArgs, fun h hread => ?_⟩
  obtain ⟨parsed, hparse, hentries⟩ := entries_of_batchRead hdefaults hcore hread
  refine ⟨fun hbins => ⟨hentries.imp fun key br hentry => ?_, fun d hd => ?_⟩,
    fun hbins => hentries.imp fun key br hentry => ?_⟩
  · obtain ⟨op, heq⟩ := @readOne_eq_readAs crates rt texts core clock _ _ _ _ bins hbins hentry.key
      hparse
    rw [heq]
    exact shownIn_readAs op hentry.answer
  · have hfresh : h = fromResults h.inner := by
      obtain ⟨_, -, hread⟩ := bind_eq_ok.mp hread
      obtain ⟨_, -, hread⟩ := bind_eq_ok.mp hread
      rw [← Except.ok.inj hread]
      rfl
    rw [hfresh] at hd
    obtain ⟨-, es, hes, -, rfl⟩ := batchToDictPy_eq_ok.mp (toDict_of_returned hd)
    rw [items_of_entries hbins hparse hentries hes]
  · subst hbins
    rw [existsKey_eq_existenceOf hentry.key hparse]
    exact existenceShownIn_existenceOf hentry.answer

/-- Two key tuples, one after the other in memory. -/
def twoTuples : List PyObj :=
  [.str "test", .str "demo", .str "a", .bytes (List.replicate 20 0),
    .str "test", .str "demo", .str "b", .bytes (List.replicate 20 1)]

def tupleAt (start : Nat) : KeyArg fun i => twoTuples.getD i .none where
  obj := .tuple ((twoTuples.drop start).take 4)
  address i := start + i
  stored tuple h i x hx := by
    obtain rfl := PyObj.tuple.inj h
    have hdrop : (twoTuples.drop start)[i]? = some x := by
      rw [List.getElem?_take] at hx
      exact (Option.ite_none_right_eq_some.mp hx).2
    rw [List.getElem?_drop] at hdrop
    rw [List.getD_eq_getElem?_getD, hdrop, Option.getD_some]

def storedBins : Bins → List (String × Value)
  | .none => []
  | _ => [("n", .int 7)]

def storedRecord (bins : Bins) : Record where
  key := none
  bins := storedBins bins
  generation := 3
  expiration := 0
  distinct := by cases bins <;> simp [storedBins]

/-- Under the digest of zeros there is a record. -/
def serve (key : Key) (bins : Bins) : Served Record :=
  if key.digest = List.replicate 20 0 then .answered (.ok (storedRecord bins))
  else .answered (.error (.serverError .keyNotFoundError false "A"))

def entryOf (key : Key) (bins : Bins) : BatchRecord Key Record :=
  if key.digest = List.replicate 20 0 then ⟨key, some (storedRecord bins), some .ok, false⟩
  else ⟨key, none, some .keyNotFoundError, false⟩

def oneStored : ReadClient where
  get _ := serve
  batch _ ops := .answered (.ok (ops.map fun op => entryOf op.key op.bins))

theorem answersAs_serve (key : Key) (bins : Bins) :
    AnswersAs (serve key bins) (entryOf key bins) := by
  by_cases hdigest : key.digest = List.replicate 20 0
  · rw [serve, entryOf, if_pos hdigest, if_pos hdigest]
    exact .record rfl rfl nofun
  · rw [serve, entryOf, if_neg hdigest, if_neg hdigest]
    exact .refused rfl (by decide) nofun rfl

theorem servesAlike_oneStored : ServesAlike oneStored := by
  intro batchPolicy ops results h
  injection h with h
  obtain rfl := Except.ok.inj h
  rw [List.forall₂_map_right_iff, List.forall₂_same]
  refine fun op _ => ⟨?_, answersAs_serve op.key op.bins⟩
  unfold entryOf
  split <;> rfl

/-- The record of `a` is read, and that of `b` is missing in both. -/
theorem batch_reads_one_by_one_missing :
    ∃ h d, PyClient.batchRead coreDefaults .plain ⟨fun _ => "", fun _ => ""⟩ oneStored
        [tupleAt 0, tupleAt 4] none (some [(.str "total_timeout", .int 50)]) = .ok h ∧
      (h.perform .plain (fun _ => .ok "") (.view .toDict) .completes).1 = .returned (.dict d) ∧
      d = [(.str "a", .dict [(.str "n", .int 7)])] ∧
      d = Assoc.ofList pyEq ([tupleAt 0, tupleAt 4].filterMap fun key =>
        itemOf coreDefaults .plain ⟨fun _ => "", fun _ => ""⟩ oneStored (fun _ => none) none
          (some [(.str "total_timeout", .int 50)]) key.obj) := by
  refine ⟨_, _, rfl, rfl, rfl, ?_⟩
  have hall := (batch_reads_one_by_one coreDefaults .plain ⟨fun _ => "", fun _ => ""⟩ oneStored
    (fun _ => none) (fun _ => .ok "") rfl servesAlike_oneStored [tupleAt 0, tupleAt 4] none
    (some [(.str "total_timeout", .int 50)])).2 _ rfl
  exact (hall.1 nofun).2 _ rfl

end AerospikePy.Batch
