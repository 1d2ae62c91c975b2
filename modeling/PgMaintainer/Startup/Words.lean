import PgMaintainer.Text
import PgMaintainer.Types

/-!
# Settings given by a word

The `from_str` of every enumeration in `types.rs`: the text is compared with the words of the
enumeration up to case, and anything else is an error.
-/

namespace PgMaintainer

/-- Look the lower-cased text up among the words of an enumeration. -/
def fromWord {α : Type} (words : List (String × α)) (complaint : String → String) (s : Text) :
    Except String α :=
  match words.find? fun word => word.1.toList = s.toLowercase with
  | some (_, value) => .ok value
  | none => .error (complaint (String.ofList s))

/-- A value that is read belongs to the lower-cased text. -/
theorem from_word_ok {α : Type} {words : List (String × α)} {complaint : String → String}
    {s : Text} {value : α} (h : fromWord words complaint s = .ok value) :
    ∃ word, (word, value) ∈ words ∧ word.toList = s.toLowercase := by
  unfold fromWord at h
  split at h
  · next word found hfind =>
      cases h
      exact ⟨word, List.mem_of_find?_eq_some hfind, by simpa using List.find?_some hfind⟩
  · cases h

/-- The words of `SslMode`. -/
def SslMode.words : List (String × SslMode) :=
  [("disable", .disable), ("require", .require), ("verify-ca", .verifyCa),
    ("verify-full", .verifyFull)]

/-- `SslMode::from_str`. -/
def SslMode.fromStr : Text → Except String SslMode :=
  fromWord words fun s =>
    s!"Invalid sslmode '{s}'. Must be one of: disable, require, verify-ca, verify-full"

/-- The words of `LogFormat`. -/
def LogFormat.words : List (String × LogFormat) := [("text", .text), ("json", .json)]

/-- `LogFormat::from_str`. -/
def LogFormat.fromStr : Text → Except String LogFormat :=
  fromWord words fun s => s!"Invalid log format '{s}'. Must be one of: 'text', 'json'"

/-- The words of `ShutdownMode`. -/
def ShutdownMode.words : List (String × ShutdownMode) :=
  [("finish", .finish), ("cancel", .cancel), ("terminate", .terminate)]

/-- `ShutdownMode::from_str`. -/
def ShutdownMode.fromStr : Text → Except String ShutdownMode :=
  fromWord words fun s =>
    s!"Invalid shutdown mode '{s}'. Must be one of: 'finish', 'cancel', 'terminate'"

/-- The words of `LogRotation`. -/
def LogRotation.words : List (String × LogRotation) := [("none", .none), ("daily", .daily)]

/-- `LogRotation::from_str`. -/
def LogRotation.fromStr : Text → Except String LogRotation :=
  fromWord words fun s => s!"Invalid log rotation '{s}'. Must be one of: 'none', 'daily'"

/-- The words of `OrderBy`. -/
def OrderBy.words : List (String × OrderBy) :=
  [("size", .size), ("last-maintained", .lastMaintained)]

/-- `OrderBy::from_str`. -/
def OrderBy.fromStr : Text → Except String OrderBy :=
  fromWord words fun s => s!"Invalid order-by '{s}'. Must be one of: size, last-maintained"

/-- The words of `Mode`. -/
def Mode.words : List (String × Mode) :=
  [("never-vacuumed", .neverVacuumed), ("never-analyzed", .neverAnalyzed),
    ("prevent-wraparound", .preventWraparound), ("prevent-bloat", .preventBloat),
    ("needs-vacuum", .needsVacuum), ("vacuum-overdue", .vacuumOverdue),
    ("analyze-overdue", .analyzeOverdue)]

/-- `Mode::from_str`. -/
def Mode.fromStr : Text → Except String Mode :=
  fromWord words fun s =>
    s!"Invalid mode '{s}'. Must be one of: never-vacuumed, never-analyzed, " ++
      "prevent-wraparound, prevent-bloat, needs-vacuum, vacuum-overdue, analyze-overdue"

end PgMaintainer
