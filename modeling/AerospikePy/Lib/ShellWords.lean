import Mathlib.Data.List.Forall2
import Mathlib.Algebra.Order.Ring.Int

/-!
# Words of a shell command

How a POSIX shell splits a simple command into words, for commands of blanks, single quotes,
backslashes and characters that mean themselves; a command with any other character outside
of quotes is not read. A text between single quotes, with each quote of its own closed,
escaped and opened again, is read as one word, the text itself.
-/

namespace AerospikePy.Lib.ShellWords

inductive Mode where
  | plain
  | quoted
  | escaped
  deriving DecidableEq, Repr

/-- The words that are complete, the one that has begun, and what surrounds the next
character. -/
structure Lexer where
  words : List (List Char)
  current : Option (List Char)
  mode : Mode
  deriving DecidableEq, Repr

namespace Lexer

def initial : Lexer := ⟨[], none, .plain⟩

/-- The character belongs to the word. -/
def push (l : Lexer) (c : Char) : Lexer :=
  { l with
    current := some (l.current.getD [] ++ [c])
    mode := if l.mode = .escaped then .plain else l.mode }

/-- The word ends. -/
def cut (l : Lexer) : Lexer := { l with words := l.words ++ l.current.toList, current := none }

end Lexer

def blank (c : Char) : Bool := c = ' ' || c = '\t'

/-- Outside of quotes the character may mean something else than itself. -/
def special (c : Char) : Bool := "|&;<>()$`\"*?[#~=%!\x7b\x7d\n".toList.contains c

def step (l : Lexer) (c : Char) : Option Lexer :=
  match l.mode with
  | .plain =>
    if blank c then some l.cut
    else if c = '\'' then some { l with current := some (l.current.getD []), mode := .quoted }
    else if c = '\\' then some { l with mode := .escaped }
    else if special c then none
    else some (l.push c)
  | .quoted => if c = '\'' then some { l with mode := .plain } else some (l.push c)
  | .escaped => if c = '\n' then some { l with mode := .plain } else some (l.push c)

def lex (l : Lexer) (cs : List Char) : Option Lexer := cs.foldlM step l

/-- The words of a command; `none` where it is cut off or not of the simple kind. -/
def words (cs : List Char) : Option (List (List Char)) :=
  (lex .initial cs).bind fun l => if l.mode = .plain then some l.cut.words else none

/-- A quote becomes `'\''`. -/
def escape (cs : List Char) : List Char :=
  cs.flatMap fun c => if c = '\'' then ['\'', '\\', '\'', '\''] else [c]

def quote (cs : List Char) : List Char := '\'' :: (escape cs ++ ['\''])

/-- Between words, the fragment is read as the one word. -/
def Reads (fragment word : List Char) : Prop :=
  ∀ ws, lex ⟨ws, none, .plain⟩ fragment = some ⟨ws, some word, .plain⟩

theorem lex_append (l : Lexer) (cs ds : List Char) :
    lex l (cs ++ ds) = (lex l cs).bind fun l => lex l ds :=
  List.foldlM_append ..

theorem lex_cons {l l' : Lexer} {c : Char} (h : step l c = some l') (cs : List Char) :
    lex l (c :: cs) = lex l' cs := by
  rw [lex, List.foldlM_cons, h]
  rfl

/-- What stands for one character of a quoted text is read as this character. -/
theorem lex_escaped_char (ws : List (List Char)) (word : List Char) (c : Char)
    (rest : List Char) :
    lex ⟨ws, some word, .quoted⟩ (escape [c] ++ rest) =
      lex ⟨ws, some (word ++ [c]), .quoted⟩ rest := by
  by_cases hc : c = '\''
  · subst hc
    have hclose : step ⟨ws, some word, .quoted⟩ '\'' = some ⟨ws, some word, .plain⟩ := rfl
    have hback : step ⟨ws, some word, .plain⟩ '\\' = some ⟨ws, some word, .escaped⟩ := rfl
    have hchar : step ⟨ws, some word, .escaped⟩ '\'' =
        some ⟨ws, some (word ++ ['\'']), .plain⟩ := rfl
    have hopen : step ⟨ws, some (word ++ ['\'']), .plain⟩ '\'' =
        some ⟨ws, some (word ++ ['\'']), .quoted⟩ := rfl
    exact (lex_cons hclose _).trans ((lex_cons hback _).trans
      ((lex_cons hchar _).trans (lex_cons hopen rest)))
  · have hchar : step ⟨ws, some word, .quoted⟩ c = some ⟨ws, some (word ++ [c]), .quoted⟩ := by
      simp [step, hc, Lexer.push]
    simpa [escape, hc] using lex_cons hchar rest

theorem lex_escape (ws : List (List Char)) (word cs rest : List Char) :
    lex ⟨ws, some word, .quoted⟩ (escape cs ++ rest) =
      lex ⟨ws, some (word ++ cs), .quoted⟩ rest := by
  induction cs generalizing word with
  | nil => simp [escape]
  | cons c cs ih =>
    have hsplit : escape (c :: cs) = escape [c] ++ escape cs := by simp [escape]
    rw [hsplit, List.append_assoc, lex_escaped_char, ih, List.append_assoc, List.singleton_append]

/-- A quoted text is one word, whatever it contains. -/
theorem reads_quote (cs : List Char) : Reads (quote cs) cs := by
  intro ws
  have hopen : step ⟨ws, none, .plain⟩ '\'' = some ⟨ws, some [], .quoted⟩ := rfl
  have hclose : step ⟨ws, some cs, .quoted⟩ '\'' = some ⟨ws, some cs, .plain⟩ := rfl
  rw [quote, lex_cons hopen, lex_escape, List.nil_append, lex_cons hclose]
  rfl

/-- Outside of quotes the character means itself. -/
def ordinary (c : Char) : Bool := !blank c && !special c && c != '\'' && c != '\\'

theorem lex_ordinary {cs : List Char} (h : cs.all ordinary = true) (ws : List (List Char))
    (word : List Char) :
    lex ⟨ws, some word, .plain⟩ cs = some ⟨ws, some (word ++ cs), .plain⟩ := by
  induction cs generalizing word with
  | nil => simp [lex]
  | cons c cs ih =>
    rw [List.all_cons, Bool.and_eq_true] at h
    have hc := h.1
    simp only [ordinary, Bool.and_eq_true, Bool.not_eq_true', bne_iff_ne] at hc
    have hstep : step ⟨ws, some word, .plain⟩ c = some ⟨ws, some (word ++ [c]), .plain⟩ := by
      simp [step, hc, Lexer.push]
    rw [lex_cons hstep, ih h.2, List.append_assoc, List.singleton_append]

theorem reads_ordinary {c : Char} {cs : List Char} (h : (c :: cs).all ordinary = true) :
    Reads (c :: cs) (c :: cs) := by
  intro ws
  rw [List.all_cons, Bool.and_eq_true] at h
  have hc := h.1
  simp only [ordinary, Bool.and_eq_true, Bool.not_eq_true', bne_iff_ne] at hc
  have hstep : step ⟨ws, none, .plain⟩ c = some ⟨ws, some [c], .plain⟩ := by
    simp [step, hc, Lexer.push]
  rw [lex_cons hstep, lex_ordinary h.2, List.singleton_append]

theorem lex_intercalate {fragments ws : List (List Char)} (h : List.Forall₂ Reads fragments ws)
    (before : List (List Char)) :
    (lex ⟨before, none, .plain⟩ ([' '].intercalate fragments)).bind
      (fun l => if l.mode = .plain then some l.cut.words else none) = some (before ++ ws) := by
  induction h generalizing before with
  | nil => simp [lex, Lexer.cut]
  | @cons fragment w fragments ws hread hrest ih =>
    cases hrest with
    | nil =>
      rw [List.intercalate_singleton, hread before]
      rfl
    | cons hnext hrest =>
      have hblank : step ⟨before, some w, .plain⟩ ' ' =
          some ⟨before ++ [w], none, .plain⟩ := rfl
      rw [List.intercalate_cons_of_ne_nil (by simp), lex_append, lex_append, hread before,
        Option.bind_some, lex_cons hblank]
      refine (ih (before ++ [w])).trans ?_
      rw [List.append_assoc, List.singleton_append]

/-- Fragments with blanks between them are read as their words. -/
theorem words_intercalate {fragments ws : List (List Char)}
    (h : List.Forall₂ Reads fragments ws) :
    words ([' '].intercalate fragments) = some ws :=
  lex_intercalate h []

end AerospikePy.Lib.ShellWords
