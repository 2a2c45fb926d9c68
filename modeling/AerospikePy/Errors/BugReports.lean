import AerospikePy.Errors.Mapping
import AerospikePy.Lib.Separated
import AerospikePy.Lib.ShellWords

/-!
# Bug reports

An error that nobody expects is logged with a command that files an issue, by
`bug_report.rs` on the Rust side and by `_bug_report.py` around the methods of the clients.
The command is meant to be pasted into a shell, whatever the text of the error is.
-/

namespace AerospikePy.Errors

open AerospikePy.Lib

/-- `REPO`. -/
def repo : String := "KimSoungRyoul/aerospike-py"

/-- `shell_escape`, of both sides: `s.replace('\'', "'\\''")`. -/
def shellEscape (s : String) : String := String.ofList (ShellWords.escape s.toList)

/-- `sanitize_for_title` of the Rust side. -/
def sanitizeForTitle (s : String) (maxLen : Nat) : String :=
  let cleaned := s.toList.map fun c => if c = '\n' then ' ' else c
  if cleaned.length ≤ maxLen then String.ofList cleaned
  else String.ofList (cleaned.take (maxLen - 3)) ++ "..."

/-- The command at the end of a report. -/
def issueCommand (title body : String) : String :=
  "gh issue create --repo " ++ repo ++ " --title '" ++ shellEscape title ++ "' --body '"
    ++ shellEscape body ++ "'"

/-- What stands above the command. -/
def reportIntro (context error : String) : String :=
  "Unexpected internal error in aerospike-py (" ++ context ++ "): " ++ error
    ++ "\n\nThis error may be a bug in aerospike-py. Please report it by running:\n"

structure Issue where
  title : String
  body : String
  deriving DecidableEq

/-- What is logged: an error in some context, and the issue to file for it. -/
structure Report where
  context : String
  error : String
  issue : Issue
  deriving DecidableEq

def Report.message (r : Report) : String :=
  reportIntro r.context r.error ++ issueCommand r.issue.title r.issue.body

/-- What the reports name besides the error: the version of the package, and on the Python
side `sys.version`, `platform.platform()` and the formatted traceback of an exception. -/
structure Surroundings where
  version : String
  python : String
  platform : String
  traceback : String → String → String

variable (env : Surroundings)

namespace Rust

def issue (context errorDetail : String) : Issue where
  title := "Unexpected error: " ++ sanitizeForTitle errorDetail 80
  body := "aerospike-py version: " ++ env.version ++ "\nContext: " ++ context ++ "\nError: "
    ++ errorDetail

/-- What `log_unexpected_error` logs. -/
def logUnexpectedError (context errorDetail : String) : Report :=
  ⟨context, errorDetail, issue env context errorDetail⟩

end Rust

namespace Python

/-- `str.isspace` of one character, by which `str.split()` splits. -/
def isSpace (c : Char) : Bool :=
  let n := c.toNat
  decide (9 ≤ n ∧ n ≤ 13) || decide (28 ≤ n ∧ n ≤ 32) || n = 0x85 || n = 0xA0 || n = 0x1680
    || decide (0x2000 ≤ n ∧ n ≤ 0x200A) || n = 0x2028 || n = 0x2029 || n = 0x202F
    || n = 0x205F || n = 0x3000

/-- `" ".join(s.split())`: `_sanitize_for_title` of the Python side. -/
def sanitizeForTitle (s : String) : String :=
  String.ofList ([' '].intercalate ((s.toList.splitOnP isSpace).filter fun w => !w.isEmpty))

def issue (context excType excMsg : String) : Issue where
  title := String.ofList
    ((sanitizeForTitle ("Unexpected error: " ++ excType ++ ": " ++ excMsg)).toList.take 80)
  body := "aerospike-py version: " ++ env.version ++ "\nPython: " ++ env.python ++ "\nPlatform: "
    ++ env.platform ++ "\nContext: " ++ context ++ "\nError: " ++ excType ++ ": " ++ excMsg
    ++ "\n\nTraceback:\n```\n" ++ env.traceback excType excMsg ++ "\n```"

def logUnexpectedError (context excType excMsg : String) : Report :=
  ⟨context, excType ++ ": " ++ excMsg, issue env context excType excMsg⟩

end Python

/-- A `panic` payload. -/
inductive Payload where
  | str (s : String)
  | string (s : String)
  | any
  deriving DecidableEq

def panicMsg : Payload → String
  | .str s => s
  | .string s => s
  | .any => "<non-string panic payload>"

/-- An exception on its way to the caller; `fatal` is the `PanicException` of a panic that no
helper caught, which is not an `Exception`. -/
inductive Raised where
  | aerospike (exc : AerospikeException)
  | other (excType excMsg : String)
  | fatal (msg : String)
  deriving DecidableEq

/-- What the native part of a method comes to: an error of the core, a panic, a branch that
`internal_bug!` guards, or an exception about the arguments. -/
inductive Native (α : Type) where
  | returned (a : α)
  | failed (err : AsError)
  | panicked (payload : Payload)
  | internalBug (context detail : String)
  | raised (excType excMsg : String)

variable {α : Type} (texts : ErrorTexts)

/-- The native part with its conversions of errors, and what it reports; `op` names the
operation where a helper of `panic_safety` guards it. -/
def nativeCall (op : Option String) : Native α → Except Raised α × List Report
  | .returned a => (.ok a, [])
  | .failed err =>
    let (exc, report) := asToPyerr texts err
    (.error (.aerospike exc),
      (report.map fun b => Rust.logUnexpectedError env b.context b.errorMsg).toList)
  | .panicked payload =>
    let msg := panicMsg payload
    match op with
    | some op =>
      (.error (.aerospike ⟨.rustPanicError, "Rust panic in `" ++ op ++ "`: " ++ msg,
        clientSideResultCode⟩), [Rust.logUnexpectedError env op msg])
    | none => (.error (.fatal msg), [])
  | .internalBug context detail =>
    (.error (.other "RuntimeError"
      ("aerospike-py internal error (" ++ context ++ "): " ++ detail)),
      [Rust.logUnexpectedError env context detail])
  | .raised excType excMsg => (.error (.other excType excMsg), [])

/-- `catch_unexpected`: an `Exception` that is no `AerospikeError` is logged and raised again;
the classes of `errors.rs` are all below `AerospikeError`. -/
def catchUnexpected (methodName : String) (call : Except Raised α × List Report) :
    Except Raised α × List Report :=
  match call.1 with
  | .error (.other excType excMsg) =>
    (call.1, call.2 ++ [Python.logUnexpectedError env methodName excType excMsg])
  | .error (.aerospike _) | .error (.fatal _) | .ok _ => call

/-- The call of a method of a client. -/
def wrapperCall (methodName : String) (op : Option String) (native : Native α) :
    Except Raised α × List Report :=
  catchUnexpected env methodName (nativeCall env texts op native)

/-- The command is its words with blanks between them, two of them quoted. -/
theorem toList_issueCommand (title body : String) :
    (issueCommand title body).toList =
      [' '].intercalate ["gh".toList, "issue".toList, "create".toList, "--repo".toList,
        repo.toList, "--title".toList, ShellWords.quote title.toList, "--body".toList,
        ShellWords.quote body.toList] := by
  have hhead : "gh issue create --repo ".toList = "gh".toList ++ ([' '] ++ ("issue".toList ++
      ([' '] ++ ("create".toList ++ ([' '] ++ ("--repo".toList ++ [' '])))))) := by decide
  have htitle : " --title '".toList = [' '] ++ ("--title".toList ++ ([' '] ++ ['\''])) := by
    decide
  have hbody : "' --body '".toList =
      ['\''] ++ ([' '] ++ ("--body".toList ++ ([' '] ++ ['\'']))) := by decide
  have hend : "'".toList = ['\''] := by decide
  have hquote : ∀ cs, ShellWords.quote cs = ['\''] ++ (ShellWords.escape cs ++ ['\'']) :=
    fun _ => rfl
  unfold issueCommand shellEscape
  simp only [String.toList_append, String.toList_ofList, hhead, htitle, hbody, hend, hquote,
    List.append_assoc, List.intercalate_cons_of_ne_nil, List.intercalate_singleton, ne_eq,
    reduceCtorEq, not_false_eq_true]

/-- The words of the command that files an issue. -/
def issueWords (i : Issue) : List (List Char) :=
  ["gh", "issue", "create", "--repo", repo, "--title", i.title, "--body", i.body].map
    String.toList

theorem words_issueCommand (i : Issue) :
    ShellWords.words (issueCommand i.title i.body).toList = some (issueWords i) := by
  rw [toList_issueCommand]
  have hplain : ∀ s ∈ ["gh", "issue", "create", "--repo", repo, "--title", "--body"],
      ShellWords.Reads s.toList s.toList := by
    intro s hs
    have hne : s.toList ≠ [] := by revert s; decide
    have hall : s.toList.all ShellWords.ordinary = true := by revert s; decide
    obtain ⟨c, cs, hcs⟩ := List.exists_cons_of_ne_nil hne
    rw [hcs] at hall ⊢
    exact ShellWords.reads_ordinary hall
  refine ShellWords.words_intercalate ?_
  exact .cons (hplain _ (by decide)) (.cons (hplain _ (by decide)) (.cons (hplain _ (by decide))
    (.cons (hplain _ (by decide)) (.cons (hplain _ (by decide)) (.cons (hplain _ (by decide))
      (.cons (ShellWords.reads_quote _) (.cons (hplain _ (by decide))
        (.cons (ShellWords.reads_quote _) .nil))))))))

theorem rust_title_line (context errorDetail : String) :
    '\n' ∉ (Rust.issue env context errorDetail).title.toList ∧
      (Rust.issue env context errorDetail).title.toList.length ≤ 98 := by
  have hcleaned : '\n' ∉ errorDetail.toList.map fun c => if c = '\n' then ' ' else c := by
    rw [List.mem_map]
    rintro ⟨c, -, hc⟩
    by_cases h : c = '\n'
    · simp [h] at hc
    · simp only [h, if_false] at hc
  have hhead : '\n' ∉ "Unexpected error: ".toList ∧ "Unexpected error: ".toList.length = 18 := by
    decide
  have hdots : '\n' ∉ "...".toList ∧ "...".toList.length = 3 := by decide
  unfold Rust.issue sanitizeForTitle
  dsimp only
  rw [String.toList_append, List.mem_append, List.length_append, hhead.2]
  generalize errorDetail.toList.map (fun c => if c = '\n' then ' ' else c) = cleaned at hcleaned
  by_cases hlen : cleaned.length ≤ 80
  · simp only [if_pos hlen, String.toList_ofList]
    exact ⟨not_or.mpr ⟨hhead.1, hcleaned⟩, by omega⟩
  · simp only [if_neg hlen, String.toList_append, String.toList_ofList, List.length_append,
      hdots.2, List.length_take]
    refine ⟨not_or.mpr ⟨hhead.1, fun h => ?_⟩, by omega⟩
    rcases List.mem_append.mp h with h | h
    · exact hcleaned (List.mem_of_mem_take h)
    · exact hdots.1 h

theorem python_title_line (context excType excMsg : String) :
    (∀ c ∈ (Python.issue env context excType excMsg).title.toList,
        Python.isSpace c = true → c = ' ') ∧
      (Python.issue env context excType excMsg).title.toList.length ≤ 80 := by
  unfold Python.issue Python.sanitizeForTitle
  dsimp only
  rw [String.toList_ofList, String.toList_ofList]
  constructor
  · intro c hc hspace
    obtain heq | ⟨w, hw, hcw⟩ := Separated.of_mem_intercalate (List.mem_of_mem_take hc)
    · exact heq
    · have hsplit := Separated.not_of_mem_splitOnP (List.mem_of_mem_filter hw) c hcw
      rw [hspace] at hsplit
      exact Bool.noConfusion hsplit
  · exact List.length_take_le ..

/-- A report that can be filed: its message ends in the command, which the shell reads as the
words that were meant, the title is one line, and the body has the text of the error. -/
structure Fileable (r : Report) : Prop where
  command : (issueCommand r.issue.title r.issue.body).toList <:+ r.message.toList
  words : ShellWords.words (issueCommand r.issue.title r.issue.body).toList =
    some (issueWords r.issue)
  line : '\n' ∉ r.issue.title.toList
  short : r.issue.title.toList.length ≤ 98
  body : r.error.toList <:+: r.issue.body.toList

theorem issueCommand_suffix (r : Report) :
    (issueCommand r.issue.title r.issue.body).toList <:+ r.message.toList := by
  unfold Report.message
  rw [String.toList_append]
  exact List.suffix_append _ _

theorem rust_fileable (context errorDetail : String) :
    Fileable (Rust.logUnexpectedError env context errorDetail) where
  command := issueCommand_suffix _
  words := words_issueCommand _
  line := (rust_title_line env context errorDetail).1
  short := (rust_title_line env context errorDetail).2
  body := by
    unfold Rust.logUnexpectedError Rust.issue
    dsimp only
    rw [String.toList_append]
    exact (List.suffix_append _ _).isInfix

theorem python_fileable (context excType excMsg : String) :
    Fileable (Python.logUnexpectedError env context excType excMsg) where
  command := issueCommand_suffix _
  words := words_issueCommand _
  line := by
    intro h
    have hblank := (python_title_line env context excType excMsg).1 '\n' h (by decide)
    exact absurd hblank (by decide)
  short := le_trans (python_title_line env context excType excMsg).2 (by decide)
  body := by
    unfold Python.logUnexpectedError Python.issue
    dsimp only
    refine ⟨("aerospike-py version: " ++ env.version ++ "\nPython: " ++ env.python
      ++ "\nPlatform: " ++ env.platform ++ "\nContext: " ++ context ++ "\nError: ").toList,
      ("\n\nTraceback:\n```\n" ++ env.traceback excType excMsg ++ "\n```").toList, ?_⟩
    simp only [String.toList_append, List.append_assoc]

/-- How many reports a call logs: none for an error that a class of its own stands for, two
where `internal_bug!` has reported an exception that the wrapper does not know. -/
def reportCount (op : Option String) : Native α → Nat
  | .returned _ => 0
  | .failed (.other _) => 1
  | .failed _ => 0
  | .panicked _ => if op.isSome then 1 else 0
  | .internalBug _ _ => 2
  | .raised _ _ => 1

theorem length_reports (methodName : String) (op : Option String) (native : Native α) :
    (wrapperCall env texts methodName op native).2.length = reportCount op native := by
  cases native with
  | returned a => rfl
  | failed err => cases err <;> rfl
  | panicked payload => cases op <;> rfl
  | internalBug context detail => rfl
  | raised excType excMsg => rfl

theorem fileable_of_nativeCall (op : Option String) (native : Native α) :
    ∀ r ∈ (nativeCall env texts op native).2, Fileable r := by
  intro r hr
  cases native with
  | returned a => exact absurd hr List.not_mem_nil
  | failed err =>
    simp only [nativeCall, Option.mem_toList, Option.map_eq_some_iff] at hr
    obtain ⟨b, -, rfl⟩ := hr
    exact rust_fileable env b.context b.errorMsg
  | panicked payload =>
    cases op with
    | none => exact absurd hr List.not_mem_nil
    | some op =>
      obtain rfl := List.mem_singleton.mp hr
      exact rust_fileable env op (panicMsg payload)
  | internalBug context detail =>
    obtain rfl := List.mem_singleton.mp hr
    exact rust_fileable env context detail
  | raised excType excMsg => exact absurd hr List.not_mem_nil

/-- Whatever the native part of a call comes to, and whatever its texts contain, each report
that the call logs can be filed by pasting its command, and the call logs as many as the kind
of its failure asks for. -/
theorem reports_of_call (methodName : String) (op : Option String) (native : Native α) :
    (∀ r ∈ (wrapperCall env texts methodName op native).2, Fileable r) ∧
      (wrapperCall env texts methodName op native).2.length = reportCount op native := by
  refine ⟨fun r hr => ?_, length_reports env texts methodName op native⟩
  have hnative := fileable_of_nativeCall env texts op native
  unfold wrapperCall catchUnexpected at hr
  cases hcall : (nativeCall env texts op native).1 with
  | ok a => exact hnative r (by simpa [hcall] using hr)
  | error raised =>
    cases raised with
    | aerospike exc => exact hnative r (by simpa [hcall] using hr)
    | fatal msg => exact hnative r (by simpa [hcall] using hr)
    | other excType excMsg =>
      rw [hcall] at hr
      rcases List.mem_append.mp hr with hr | hr
      · exact hnative r hr
      · obtain rfl := List.mem_singleton.mp hr
        exact python_fileable env methodName excType excMsg

end AerospikePy.Errors
