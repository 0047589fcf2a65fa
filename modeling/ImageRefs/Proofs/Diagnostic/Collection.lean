import ImageRefs.Proofs.Diagnostic.Diagnosis
import Mathlib.Algebra.BigOperators.Group.List.Basic
import Mathlib.Algebra.Ring.Nat

/-!
Collections of diagnostics in use. A collection holds what was pushed, in order, and everything that
can be asked of it is about these entries; the summary can be taken apart into them again.
-/

set_option autoImplicit false

namespace ImageRefs.Diagnostics

/-! ### Use -/

/-- What can be asked of a collection. -/
inductive Query where
  | count
  | countOf (severity : Severity)
  | errors
  | byCode (code : DiagnosticCode)
  | hasAny
  | hasErrors
  | summary
  | text
  deriving DecidableEq, Repr

inductive Use where
  | push (d : Diagnostic)
  /-- Pushes the diagnostic of a failure, if it has one. -/
  | report (failure : LoadError) (catalog : Catalog) (location : Location) (displayName : String)
      (kind : ImageKind)
  | ask (query : Query)

inductive Reply where
  | pushed
  | handedBack (failure : LoadError)
  | number (n : Nat)
  | flag (value : Bool)
  | listed (entries : List Diagnostic)
  | text (text : String)
  deriving DecidableEq, Repr

def reply (ds : Diagnostics) : Query → Reply
  | .count => .number ds.count
  | .countOf severity => .number (ds.countOf severity)
  | .errors => .listed ds.errors
  | .byCode code => .listed (ds.byCode code)
  | .hasAny => .flag ds.hasAny
  | .hasErrors => .flag ds.hasErrors
  | .summary => .text ds.summary
  | .text => .text ds.text

def use (ds : Diagnostics) : Use → Reply × Diagnostics
  | .push d => (.pushed, ds.push d)
  | .report failure catalog location displayName kind =>
    match failure.diagnose catalog location displayName kind with
    | .ok d => (.pushed, ds.push d)
    | .error failure => (.handedBack failure, ds)
  | .ask query => (ds.reply query, ds)

def run (ds : Diagnostics) (uses : List Use) : Diagnostics :=
  uses.foldl (fun ds u => (ds.use u).2) ds

/-- The diagnostic that is pushed. -/
def Use.pushed? : Use → Option Diagnostic
  | .push d => some d
  | .report failure catalog location displayName kind =>
    (failure.diagnose catalog location displayName kind).toOption
  | .ask _ => none

def Use.asks : Use → Bool
  | .ask _ => true
  | _ => false

/-! ### Entries -/

theorem use_entries (ds : Diagnostics) (u : Use) :
    (ds.use u).2.entries = ds.entries ++ u.pushed?.toList := by
  cases u with
  | push d => rfl
  | report failure catalog location displayName kind =>
    simp only [use, Use.pushed?]
    cases failure.diagnose catalog location displayName kind with
    | ok d => rfl
    | error failure => simp [Except.toOption]
  | ask query => simp [use, Use.pushed?]

theorem run_entries (ds : Diagnostics) (uses : List Use) :
    (ds.run uses).entries = ds.entries ++ uses.filterMap Use.pushed? := by
  induction uses generalizing ds with
  | nil => simp [run]
  | cons u uses ih =>
    have rest := ih (ds.use u).2
    rw [use_entries, List.append_assoc] at rest
    refine rest.trans (congrArg _ ?_)
    cases pushed : u.pushed? with
    | none => rw [List.filterMap_cons_none pushed]; rfl
    | some d => rw [List.filterMap_cons_some pushed]; rfl

/-- Without the questions in between, a collection ends up the same. -/
theorem run_without_questions (ds : Diagnostics) (uses : List Use) :
    ds.run (uses.filter (!·.asks)) = ds.run uses := by
  induction uses generalizing ds with
  | nil => rfl
  | cons u uses ih =>
    cases u with
    | push d => exact ih (ds.push d)
    | report failure catalog location displayName kind => exact ih _
    | ask query => exact ih ds

/-! ### Counts -/

/-- Every entry is counted for exactly one of the keys that there are. -/
theorem sum_countP_key {K : Type} [DecidableEq K] (key : Diagnostic → K) {keys : List K}
    (once : ∀ k, keys.count k = 1) (entries : List Diagnostic) :
    (keys.map fun k => entries.countP (key · == k)).sum = entries.length := by
  induction entries with
  | nil => simp
  | cons d entries ih =>
    have here : (keys.map fun k => if (key d == k) = true then 1 else 0).sum = 1 := by
      rw [List.sum_map_eq_nsmul_single (key d), once]
      · simp
      · intro k other _
        simp [other.symm]
    simp only [List.countP_cons, List.sum_map_add, ih, List.length_cons]
    rw [here]

theorem count_eq_sum_severities (ds : Diagnostics) :
    ds.count = ds.countOf .error + ds.countOf .warning + ds.countOf .info := by
  have once (severity : Severity) : [Severity.error, .warning, .info].count severity = 1 := by
    cases severity <;> rfl
  have sum := sum_countP_key Diagnostic.severity once ds.entries
  simpa [count, countOf, Nat.add_assoc] using sum.symm

theorem count_eq_sum_codes (ds : Diagnostics) :
    ds.count = (DiagnosticCode.all.map fun code => (ds.byCode code).length).sum := by
  have once (code : DiagnosticCode) : DiagnosticCode.all.count code = 1 := by
    cases code <;> rfl
  simp only [byCode, ← List.countP_eq_length_filter]
  exact (sum_countP_key Diagnostic.code once ds.entries).symm

/-- What is chosen keeps its order, and nothing of it is lost or repeated. -/
theorem filter_sublist_count (chosen : Diagnostic → Bool) (entries : List Diagnostic) :
    (entries.filter chosen).Sublist entries ∧
      ∀ d, (entries.filter chosen).count d = if chosen d = true then entries.count d else 0 := by
  refine ⟨List.filter_sublist, fun d => ?_⟩
  split
  next isChosen => exact List.count_filter isChosen
  next other =>
    apply List.count_eq_zero.mpr
    intro member
    exact other (List.mem_filter.mp member).2

theorem hasErrors_iff (ds : Diagnostics) : ds.hasErrors = true ↔ ds.errors ≠ [] := by
  simp [hasErrors, errors]

/-! ### The summary -/

/-- The numbers of errors, warnings and infos. -/
def headline (errors warnings infos : Nat) : String :=
  "Diagnostics: " ++ toString errors ++ " error(s), " ++ toString warnings ++ " warning(s), " ++
    toString infos ++ " info(s)"

theorem newline_not_mem_headline (errors warnings infos : Nat) :
    '\n' ∉ (headline errors warnings infos).toList := by
  have digits (n : Nat) : '\n' ∉ (toString n).toList := by
    intro member
    rw [Nat.toString_eq_repr, Nat.toList_repr] at member
    exact absurd (Nat.isDigit_of_mem_toDigits (by decide) (by decide) member) (by decide)
  unfold headline
  simp only [String.toList_append, List.mem_append, not_or]
  refine ⟨⟨⟨⟨⟨⟨?_, digits errors⟩, ?_⟩, digits warnings⟩, ?_⟩, digits infos⟩, ?_⟩
  all_goals decide

/-- A summary is its lines, each ended by a newline. -/
def lines (ds : Diagnostics) : List (List Char) :=
  (headline (ds.countOf .error) (ds.countOf .warning) (ds.countOf .info)).toList ::
    ds.entries.map fun d => ' ' :: ' ' :: d.text.toList

theorem summary_eq (ds : Diagnostics) :
    ds.summary = headline (ds.countOf .error) (ds.countOf .warning) (ds.countOf .info) ++ "\n" ++
      String.join (ds.entries.map fun d => "  " ++ d.text ++ "\n") := by
  have shown (text : String) : toString text = text := rfl
  unfold summary headline
  simp only [shown]
  simp only [String.append_assoc]

theorem toList_summary (ds : Diagnostics) :
    ds.summary.toList = ds.lines.flatMap (· ++ ['\n']) := by
  have entry (d : Diagnostic) :
      ("  " ++ d.text ++ "\n").toList = (' ' :: ' ' :: d.text.toList) ++ ['\n'] := by
    simp only [String.toList_append]
    rfl
  rw [summary_eq, String.toList_append, String.toList_append, String.toList_join, List.flatMap_map]
  simp only [entry, lines, List.flatMap_cons, List.flatMap_map]
  rfl

/-- Lines that hold no newline are found again between the newlines that end them. -/
theorem splitOn_lines {lines : List (List Char)} (unbroken : ∀ line ∈ lines, '\n' ∉ line) :
    (lines.flatMap (· ++ ['\n'])).splitOn '\n' = lines ++ [[]] := by
  induction lines with
  | nil => rfl
  | cons line lines ih =>
    obtain ⟨here, later⟩ := List.forall_mem_cons.mp unbroken
    have inside : ∀ c ∈ line, (c == '\n') = false := by
      intro c member
      apply beq_false_of_ne
      rintro rfl
      exact here member
    rw [List.flatMap_cons, List.append_assoc, List.singleton_append, List.splitOn,
      List.splitOnP_append_cons_of_forall_mem inside _ (by simp), List.cons_append]
    exact congrArg _ (ih later)

/-- What newlines end in a text. -/
def endedLines (text : String) : List (List Char) :=
  (text.toList.splitOn '\n').dropLast

/-- The texts that a summary lists: its lines behind the headline, without their indent. -/
def readEntries (summary : String) : List String :=
  (endedLines summary).tail.map fun line => String.ofList (line.drop 2)

theorem endedLines_summary {ds : Diagnostics} (unbroken : ∀ d ∈ ds.entries, '\n' ∉ d.text.toList) :
    endedLines ds.summary = ds.lines := by
  have each : ∀ line ∈ ds.lines, '\n' ∉ line := by
    intro line member
    rcases List.mem_cons.mp member with rfl | listed
    · exact newline_not_mem_headline _ _ _
    · obtain ⟨d, entry, rfl⟩ := List.mem_map.mp listed
      simpa using unbroken d entry
  rw [endedLines, toList_summary, splitOn_lines each, List.dropLast_concat]

theorem readEntries_summary {ds : Diagnostics}
    (unbroken : ∀ d ∈ ds.entries, '\n' ∉ d.text.toList) :
    readEntries ds.summary = ds.entries.map Diagnostic.text := by
  rw [readEntries, endedLines_summary unbroken, lines, List.tail_cons, List.map_map]
  refine List.map_congr_left fun d _ => ?_
  simp only [Function.comp_apply, List.drop_succ_cons, List.drop_zero, String.ofList_toList]

/-! ### Failures -/

theorem use_report_unexpected (ds : Diagnostics) {failure : LoadError}
    (unknown : failure.isRecognized = false) (catalog : Catalog) (location : Location)
    (displayName : String) (kind : ImageKind) :
    ds.use (.report failure catalog location displayName kind) = (.handedBack failure, ds) := by
  rw [use, LoadError.diagnose_eq_error_iff.mpr ⟨unknown, rfl⟩]

theorem use_report_recognized (ds : Diagnostics) {failure : LoadError}
    (recognized : failure.isRecognized = true) (catalog : Catalog) (location : Location)
    (displayName : String) (kind : ImageKind) :
    ∃ d, failure.diagnose catalog location displayName kind = .ok d ∧
      ds.use (.report failure catalog location displayName kind) = (.pushed, ds.push d) := by
  obtain ⟨d, diagnosed⟩ := LoadError.exists_diagnose_iff.mpr recognized
  exact ⟨d, diagnosed, by rw [use, diagnosed]⟩

/-- After any use, a collection holds what it held and what was pushed since, in order: questions
leave it as it is, and so does a failure that has no diagnostic, which is handed back. Its counts,
its lists and its flags agree with each other, and its summary, which it shows as, is the headline
with the counts and a line for each entry. If no entry is shown with a newline, these are all the
lines, and the entries as shown are read from them again. -/
theorem collection_holds_pushed (start : Diagnostics) (uses : List Use) :
    let ds := start.run uses
    ds.entries = start.entries ++ uses.filterMap Use.pushed? ∧
    start.run (uses.filter (!·.asks)) = ds ∧
    (∀ (failure : LoadError) catalog location displayName kind,
      (failure.isRecognized = false →
        ds.use (.report failure catalog location displayName kind) = (.handedBack failure, ds)) ∧
      (failure.isRecognized = true →
        ∃ d, failure.diagnose catalog location displayName kind = .ok d ∧
          ds.use (.report failure catalog location displayName kind) = (.pushed, ds.push d))) ∧
    (ds.count = ds.entries.length ∧
      ds.count = ds.countOf .error + ds.countOf .warning + ds.countOf .info ∧
      ds.count = (DiagnosticCode.all.map fun code => (ds.byCode code).length).sum) ∧
    (ds.errors.Sublist ds.entries ∧
      ∀ d, ds.errors.count d = if d.severity = .error then ds.entries.count d else 0) ∧
    (∀ code, (ds.byCode code).Sublist ds.entries ∧
      ∀ d, (ds.byCode code).count d = if d.code = code then ds.entries.count d else 0) ∧
    (ds.hasAny = true ↔ ds.count ≠ 0) ∧ (ds.hasErrors = true ↔ ds.errors ≠ []) ∧
    ds.text = ds.summary ∧
    ds.summary = headline (ds.countOf .error) (ds.countOf .warning) (ds.countOf .info) ++ "\n" ++
      String.join (ds.entries.map fun d => "  " ++ d.text ++ "\n") ∧
    ((∀ d ∈ ds.entries, '\n' ∉ d.text.toList) →
      (endedLines ds.summary).length = ds.count + 1 ∧
      readEntries ds.summary = ds.entries.map Diagnostic.text) := by
  intro ds
  refine ⟨run_entries start uses, run_without_questions start uses, ?_,
    ⟨rfl, count_eq_sum_severities ds, count_eq_sum_codes ds⟩, ?_, ?_, ?_, hasErrors_iff ds, rfl,
    summary_eq ds, ?_⟩
  · intro failure catalog location displayName kind
    exact ⟨fun unknown => use_report_unexpected ds unknown catalog location displayName kind,
      fun recognized => use_report_recognized ds recognized catalog location displayName kind⟩
  · simpa only [errors, beq_iff_eq] using filter_sublist_count (·.severity == .error) ds.entries
  · intro code
    simpa only [byCode, beq_iff_eq] using filter_sublist_count (·.code == code) ds.entries
  · simp [hasAny, Nat.pos_iff_ne_zero]
  · intro unbroken
    refine ⟨?_, readEntries_summary unbroken⟩
    rw [endedLines_summary unbroken, lines, List.length_cons, List.length_map, count]

/-- A warning of the user's own, a fault of the loader, a question and a missing file. -/
theorem summary_of_warning_and_missing_file :
    let warning : Diagnostic :=
      ⟨.warning, .invalidModuleMetadata, "Q0010", .source "a.cs" 3 14, [], "unused"⟩
    let ds := run {} [.push warning,
      .report (.unexpected "bug") Catalog.standard .none "b.dll" .assembly, .ask .summary,
      .report (.notFound (some "b.dll")) Catalog.standard .none "b.dll" .assembly]
    (∀ d ∈ ds.entries, '\n' ∉ d.text.toList) ∧ ds.count = 2 ∧
      (endedLines ds.summary).length = 3 ∧
      readEntries ds.summary = ["a.cs(3,14): warning Q0010: unused",
        "error MR0006: Metadata file 'b.dll' could not be found"] := by
  intro warning ds
  have unbroken : ∀ d ∈ ds.entries, '\n' ∉ d.text.toList := by decide +kernel
  obtain ⟨-, -, -, -, -, -, -, -, -, -, read⟩ := collection_holds_pushed {} [.push warning,
    .report (.unexpected "bug") Catalog.standard .none "b.dll" .assembly, .ask .summary,
    .report (.notFound (some "b.dll")) Catalog.standard .none "b.dll" .assembly]
  obtain ⟨length, entries⟩ := read unbroken
  exact ⟨unbroken, rfl, length, entries.trans (by decide +kernel)⟩

end ImageRefs.Diagnostics
