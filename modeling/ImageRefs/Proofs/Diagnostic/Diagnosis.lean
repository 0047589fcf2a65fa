import ImageRefs.Proofs.Template.Division
import ImageRefs.Session.Basic

/-!
From failures to diagnostics. A failure that is recognized has one diagnostic, which its own kind and
the kind of the image decide; a fault of the loader is handed back. The standard catalog puts the
arguments of a diagnostic into the sentence of its code as they are.
-/

set_option autoImplicit false

namespace ImageRefs

/-! ### Codes and arguments -/

/-- The failures that have a diagnostic, with its code and its arguments. -/
inductive Diagnosed (displayName : String) :
    ImageKind → LoadError → DiagnosticCode → List String → Prop where
  | missing (kind : ImageKind) (name : Option String) :
      Diagnosed displayName kind (.notFound name) .metadataFileNotFound [name.getD ""]
  | invalidAssembly (message : String) (reportedAt : Option CodePosition) :
      Diagnosed displayName .assembly (.malformed message reportedAt) .invalidAssemblyMetadata
        [displayName, (LoadError.malformed message reportedAt).message]
  | invalidModule (message : String) (reportedAt : Option CodePosition) :
      Diagnosed displayName .module (.malformed message reportedAt) .invalidModuleMetadata
        [displayName, (LoadError.malformed message reportedAt).message]
  | unopenedAssembly (error : IoError) :
      Diagnosed displayName .assembly (.io error) .errorOpeningAssemblyFile
        [displayName, (LoadError.io error).message]
  | unopenedModule (error : IoError) :
      Diagnosed displayName .module (.io error) .errorOpeningModuleFile
        [displayName, (LoadError.io error).message]

namespace LoadError

variable {failure : LoadError} {displayName : String} {kind : ImageKind} {code : DiagnosticCode}
  {arguments : List String} {catalog : Catalog} {location : Location}

theorem diagnosis?_eq_some_iff :
    failure.diagnosis? displayName kind = some (code, arguments) ↔
      Diagnosed displayName kind failure code arguments := by
  constructor
  · intro given
    cases failure with
    | malformed message reportedAt =>
      cases kind with
      | assembly => cases given; exact .invalidAssembly message reportedAt
      | module => cases given; exact .invalidModule message reportedAt
    | notFound name => cases given; exact .missing kind name
    | io error =>
      cases kind with
      | assembly => cases given; exact .unopenedAssembly error
      | module => cases given; exact .unopenedModule error
    | unexpected message => cases given
  · intro diagnosed
    cases diagnosed <;> rfl

theorem diagnosis?_eq_none_iff :
    failure.diagnosis? displayName kind = none ↔ failure.isRecognized = false := by
  cases failure <;> simp [diagnosis?, isRecognized]

theorem diagnose_eq_ok_iff {d : Diagnostic} :
    failure.diagnose catalog location displayName kind = .ok d ↔
      ∃ code arguments, Diagnosed displayName kind failure code arguments ∧
        d = .new code catalog location arguments := by
  unfold diagnose
  constructor
  · intro given
    split at given
    next code arguments found =>
      cases given
      exact ⟨code, arguments, diagnosis?_eq_some_iff.mp found, rfl⟩
    next => cases given
  · rintro ⟨code, arguments, diagnosed, rfl⟩
    rw [diagnosis?_eq_some_iff.mpr diagnosed]

theorem diagnose_eq_error_iff {other : LoadError} :
    failure.diagnose catalog location displayName kind = .error other ↔
      failure.isRecognized = false ∧ other = failure := by
  have unlisted : failure.diagnosis? displayName kind = none ↔ failure.isRecognized = false :=
    diagnosis?_eq_none_iff
  rw [← unlisted]
  unfold diagnose
  cases failure.diagnosis? displayName kind with
  | none => simp [eq_comm]
  | some found => simp

theorem exists_diagnose_iff :
    (∃ d, failure.diagnose catalog location displayName kind = .ok d) ↔
      failure.isRecognized = true := by
  cases failure <;> simp [diagnose, diagnosis?, isRecognized]

/-! ### Errors of the system -/

theorem isRecognized_ofIo (error : IoError) (path? : Option Path) :
    (ofIo error path?).isRecognized = true := by
  unfold ofIo
  split <;> rfl

/-- An error of the system is diagnosed by whether something was not found. -/
theorem diagnose_ofIo (error : IoError) (path? : Option Path) :
    (ofIo error path?).diagnose catalog location displayName kind =
      .ok (.new (if error.isNotFound then .metadataFileNotFound else .errorOpening kind) catalog
        location (if error.isNotFound then [(path?.map Path.shown).getD ""]
          else [displayName, error.message])) := by
  unfold ofIo
  split <;> rfl

end LoadError

/-! ### Sentences with arguments -/

namespace Template

theorem spells_zero : Spells ['0'] 0 :=
  ⟨['0'], Or.inl rfl, by simp, by simp, by simp [Nat.ofDigitChars]⟩

theorem spells_one : Spells ['1'] 1 :=
  ⟨['1'], Or.inl rfl, by simp, by simp, by simp [Nat.ofDigitChars]⟩

/-- Text in front of a placeholder stays, and the argument follows it. -/
theorem formatChars_sentence {arguments : List String} {text spelling : List Char} {index : Nat}
    {argument : String} (plain : '{' ∉ text ∧ '}' ∉ text) (spells : Spells spelling index)
    (below : index < indexBound) (present : arguments[index]? = some argument)
    (rest : List Char) :
    formatChars arguments (text ++ '{' :: (spelling ++ '}' :: rest)) =
      text ++ (argument.toList ++ formatChars arguments rest) := by
  -- The argument goes to the result as it is: only what is behind the placeholder is formatted on.
  rw [formatChars_plain plain.1 plain.2, formatChars_matched spells below present]

theorem format_name {before after : String} (plain : '{' ∉ before.toList ∧ '}' ∉ before.toList)
    (plain' : '{' ∉ after.toList ∧ '}' ∉ after.toList) (name : String) :
    format (before ++ "\x7b0\x7d" ++ after) [name] = before ++ name ++ after := by
  have spelled : (before ++ "\x7b0\x7d" ++ after).toList =
      before.toList ++ '{' :: (['0'] ++ '}' :: (after.toList ++ [])) := by simp
  rw [format, spelled, formatChars_sentence plain spells_zero (by decide) rfl,
    formatChars_plain plain'.1 plain'.2, formatChars]
  simp [String.append_assoc]

theorem format_name_message {before between : String}
    (plain : '{' ∉ before.toList ∧ '}' ∉ before.toList)
    (plain' : '{' ∉ between.toList ∧ '}' ∉ between.toList) (name message : String) :
    format (before ++ "\x7b0\x7d" ++ between ++ "\x7b1\x7d") [name, message] =
      before ++ name ++ between ++ message := by
  have spelled : (before ++ "\x7b0\x7d" ++ between ++ "\x7b1\x7d").toList =
      before.toList ++ '{' :: (['0'] ++ '}' :: (between.toList ++ '{' :: (['1'] ++ '}' :: []))) := by
    simp
  rw [format, spelled, formatChars_sentence plain spells_zero (by decide) rfl,
    formatChars_sentence plain' spells_one (by decide) rfl, formatChars]
  simp [String.append_assoc]

end Template

/-! ### The standard catalog -/

namespace Catalog

theorem standard_message_missing (name : String) :
    standard.message .metadataFileNotFound [name] =
      "Metadata file '" ++ name ++ "' could not be found" := by
  have formatted : Template.format ("Metadata file '" ++ "\x7b0\x7d" ++ "' could not be found")
      [name] = _ := Template.format_name (by decide) (by decide) name
  exact formatted

theorem standard_message_of_template {code : DiagnosticCode} {sentence : String}
    (template : standardTemplate code = sentence ++ "\x7b0\x7d" ++ "' -- " ++ "\x7b1\x7d")
    (plain : '{' ∉ sentence.toList ∧ '}' ∉ sentence.toList) (name message : String) :
    standard.message code [name, message] = sentence ++ name ++ "' -- " ++ message := by
  have formatted : Template.format (sentence ++ "\x7b0\x7d" ++ "' -- " ++ "\x7b1\x7d")
      [name, message] = _ := Template.format_name_message plain (by decide) name message
  rw [← template] at formatted
  exact formatted

end Catalog

/-- A failure that is recognized has the diagnostic that is listed for it, with the location and in
the words of the catalog; any other comes back as it is. Errors of the system are recognized, and
lead to a missing file exactly if nothing was found. The standard messages hold the arguments as
they are, braces included. -/
theorem recognized_iff_diagnosed (catalog : Catalog) (location : Location) (displayName : String)
    (kind : ImageKind) :
    (∀ failure : LoadError,
      (∀ other, failure.diagnose catalog location displayName kind = .error other ↔
        failure.isRecognized = false ∧ other = failure) ∧
      ((∃ d, failure.diagnose catalog location displayName kind = .ok d) ↔
        failure.isRecognized = true) ∧
      (∀ d, failure.diagnose catalog location displayName kind = .ok d ↔
        ∃ code arguments, Diagnosed displayName kind failure code arguments ∧
          d = { severity := catalog.severity code, code, id := catalog.id code, location, arguments,
                message := catalog.message code arguments }) ∧
      ∀ (s : Session) (r : Reference), (s.diagnoseReference r failure catalog location).1 =
        failure.diagnose catalog location r.display r.properties.kind) ∧
    (∀ (error : IoError) (path? : Option Path),
      (LoadError.ofIo error path?).isRecognized = true ∧
      ∃ d, (LoadError.ofIo error path?).diagnose catalog location displayName kind = .ok d ∧
        (d.code = .metadataFileNotFound ↔ error.isNotFound = true) ∧
        d.code = (if error.isNotFound then .metadataFileNotFound else .errorOpening kind) ∧
        d.arguments = if error.isNotFound then [(path?.map Path.shown).getD ""]
          else [displayName, error.message]) ∧
    (∀ name, Catalog.standard.message .metadataFileNotFound [name] =
      "Metadata file '" ++ name ++ "' could not be found") ∧
    ∀ name message,
      Catalog.standard.message .invalidAssemblyMetadata [name, message] =
        "An assembly with invalid metadata was referenced: '" ++ name ++ "' -- " ++ message ∧
      Catalog.standard.message .invalidModuleMetadata [name, message] =
        "A module with invalid metadata was referenced: '" ++ name ++ "' -- " ++ message ∧
      Catalog.standard.message .errorOpeningAssemblyFile [name, message] =
        "Error opening assembly file '" ++ name ++ "' -- " ++ message ∧
      Catalog.standard.message .errorOpeningModuleFile [name, message] =
        "Error opening module file '" ++ name ++ "' -- " ++ message := by
  refine ⟨fun failure => ⟨?_, ?_, ?_, ?_⟩, ?_, ?_, ?_⟩
  · exact fun other => LoadError.diagnose_eq_error_iff
  · exact LoadError.exists_diagnose_iff
  · exact fun d => LoadError.diagnose_eq_ok_iff
  · intro s r
    unfold Session.diagnoseReference Session.diagnose
    cases failure.diagnose catalog location r.display r.properties.kind <;> rfl
  · intro error path?
    refine ⟨LoadError.isRecognized_ofIo error path?, _, LoadError.diagnose_ofIo error path?, ?_, rfl,
      rfl⟩
    cases error.isNotFound <;> cases kind <;> simp [Diagnostic.new, DiagnosticCode.errorOpening]
  · exact Catalog.standard_message_missing
  · intro name message
    refine ⟨?_, ?_, ?_, ?_⟩
    all_goals exact Catalog.standard_message_of_template rfl (by decide) name message

/-- A display name and a message that look like placeholders. -/
example : Catalog.standard.message .invalidModuleMetadata ["\x7b1\x7d", "\x7b\x7b\x7b0\x7d"] =
    "A module with invalid metadata was referenced: '\x7b1\x7d' -- \x7b\x7b\x7b0\x7d" := by
  decide +kernel

end ImageRefs
