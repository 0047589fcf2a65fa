import ImageRefs.Proofs.Properties.Edit
import ImageRefs.Proofs.Session.Identity
import ImageRefs.Proofs.Session.Validation

/-!
References edited field by field. Over a source without rules of its own, a row of edits succeeds on
a reference if it succeeds on the properties, and leads to a reference with these properties.
-/

set_option autoImplicit false

namespace ImageRefs

/-- The update of a reference that edits its properties. -/
def Edit.update : Edit → Update
  | .aliases names => .aliases names
  | .embedInteropTypes value => .embedInteropTypes value

theorem Edit.requested_update (e : Edit) (p : Properties) :
    e.update.requested p = e.apply p := by
  cases e <;> rfl

namespace Session

variable {s : Session} {id : RefId} {r : Reference} {edits : List Edit} {q : Properties}

/-- Whatever happens in between, the reference at the end has the edited properties. -/
theorem edited_of_chain {updates : List (Update × Properties)} {after : Session} {last : RefId}
    (chain : Chain s id updates after last) (found : s.reference? id = some r)
    (same : updates.map Prod.fst = edits.map Edit.update) :
    ∃ later, after.reference? last = some later ∧
      Edit.applyAll edits r.properties = .ok later.properties := by
  induction chain generalizing r edits with
  | done s id =>
    obtain rfl := List.map_eq_nil_iff.mp same.symm
    exact ⟨r, found, rfl⟩
  | between a rest ih =>
    obtain ⟨middle, there, kept⟩ := act_later a found
    rw [← kept.properties]
    exact ih there same
  | @update s after id next last old updates u holder given rest ih =>
    obtain rfl := Option.some.inj (found.symm.trans holder)
    cases edits with
    | nil => cases same
    | cons e edits =>
      obtain ⟨rfl, others⟩ := List.cons.inj same
      obtain ⟨later, there, edited⟩ := ih (reference?_of_update found given) others
      obtain ⟨requested, -⟩ := act_update_ok e.update found given
      rw [Edit.requested_update] at requested
      refine ⟨later, there, ?_⟩
      rw [Edit.applyAll, List.foldlM_cons, requested]
      exact edited

/-- Where no rules of the source interfere, nothing else is refused than for the properties. -/
theorem exists_chain_of_applyAll (usual : r.source.value.ValidatesByDefault)
    (found : s.reference? id = some r) (edited : Edit.applyAll edits r.properties = .ok q) :
    ∃ updates after last, updates.map Prod.fst = edits.map Edit.update ∧
      Chain s id updates after last := by
  induction edits generalizing s id r with
  | nil => exact ⟨[], s, id, rfl, .done s id⟩
  | cons e edits ih =>
    rw [Edit.applyAll, List.foldlM_cons] at edited
    obtain ⟨p, one, rest⟩ := Outcome.bind_eq_ok edited
    have requested : e.update.requested r.properties = .ok p := by
      rw [Edit.requested_update, one]
    have valid : p.Valid := (Edit.apply_eq_ok_iff.mp one).2
    have accepted : r.source.value.validate p = .ok () :=
      (usual p).trans (Properties.validate_eq_ok_iff.mpr valid)
    obtain ⟨next, given⟩ := act_update_accepted e.update found requested accepted
    obtain ⟨same, -⟩ := Update.requested_eq_ok_iff.mp requested
    have there := reference?_of_update found given
    rw [← same] at there
    obtain ⟨updates, after, last, listed, chain⟩ := ih (r := r.withProperties p) usual there rest
    exact ⟨(e.update, r.properties) :: updates, after, last, congrArg (e.update :: ·) listed,
      .update e.update found given chain⟩

/-- Edits of the aliases and of the flag of valid properties succeed in one order if they do in the
other, with the same result or the same error; only a module that is given both reports the first.
Behind any row of edits that succeed are the properties made from the last aliases and the last
flag. Such a row can be made on every reference over a source without rules of its own, and leads to
a reference with the same properties, whatever else happens in between. -/
theorem edits_commute_and_last_wins :
    (∀ p : Properties, p.Valid → ∀ (names : List String) (value : Bool),
      let named := p.withAliases names >>= (·.withEmbedInteropTypes value)
      let flagged := p.withEmbedInteropTypes value >>= (·.withAliases names)
      (∀ q, named = .ok q ↔ flagged = .ok q) ∧
      (¬(p.kind = .module ∧ names ≠ [] ∧ value = true) → named = flagged) ∧
      (p.kind = .module ∧ names ≠ [] ∧ value = true →
        named = .error .moduleAliases ∧ flagged = .error (.embedNotSupported .module))) ∧
    (∀ p : Properties, p.Valid → ∀ edits q, Edit.applyAll edits p = .ok q →
      Properties.new p.kind (Edit.lastAliases edits p) (Edit.lastEmbedInteropTypes edits p) =
        .ok q) ∧
    ∀ (disk : Disk) (actions : List Action) (id : RefId) (r : Reference),
      let s := ({ disk } : Session).run actions
      s.reference? id = some r → r.source.value.ValidatesByDefault →
        ∀ edits q, Edit.applyAll edits r.properties = .ok q →
          (∃ updates after last, updates.map Prod.fst = edits.map Edit.update ∧
            Chain s id updates after last) ∧
          ∀ updates after last, updates.map Prod.fst = edits.map Edit.update →
            Chain s id updates after last →
              ∃ later, after.reference? last = some later ∧ later.properties = q ∧
                Properties.new r.properties.kind (Edit.lastAliases edits r.properties)
                  (Edit.lastEmbedInteropTypes edits r.properties) = .ok later.properties := by
  have made (p : Properties) (valid : p.Valid) (edits : List Edit) (q : Properties)
      (edited : Edit.applyAll edits p = .ok q) :
      Properties.new p.kind (Edit.lastAliases edits p) (Edit.lastEmbedInteropTypes edits p) =
        .ok q := by
    obtain ⟨valid, same⟩ := Edit.applyAll_eq_ok valid edited
    exact Properties.new_eq_ok_iff.mpr ⟨same, valid⟩
  refine ⟨?_, made, ?_⟩
  · intro p valid names value named flagged
    have both : p.kind = .module ∧ names ≠ [] ∧ value = true →
        named = .error .moduleAliases ∧ flagged = .error (.embedNotSupported .module) := by
      rintro ⟨kind, given, rfl⟩
      obtain rfl := Edit.eq_module_of_valid valid kind
      exact Edit.module_refuses given
    refine ⟨fun q => ?_, Edit.aliases_embed_comm valid, both⟩
    by_cases refused : p.kind = .module ∧ names ≠ [] ∧ value = true
    · obtain ⟨one, other⟩ := both refused
      simp [one, other]
    · rw [show named = flagged from Edit.aliases_embed_comm valid refused]
  · intro disk actions id r s found usual edits q edited
    have start : ∀ r ∈ ({ disk } : Session).references, r.Accepted := by simp
    have accepted := run_accepted actions start r (List.mem_of_getElem? found)
    have valid : r.properties.Valid :=
      Properties.validate_eq_ok_iff.mp ((usual r.properties).symm.trans accepted)
    refine ⟨exists_chain_of_applyAll usual found edited, ?_⟩
    intro updates after last listed chain
    obtain ⟨later, there, reached⟩ := edited_of_chain chain found listed
    obtain rfl := Except.ok.inj (reached.symm.trans edited)
    exact ⟨later, there, rfl, made r.properties valid edits _ edited⟩

/-- Aliases that are given twice, with the flag in between. On a module, aliases and flag are both
refused. -/
theorem edited_aliases_last_given :
    let s := ({ disk := .empty [] } : Session).run
      [.makeSource (.memory { data := [77] }), .create 0 none .assembly]
    let edits : List Edit := [.aliases ["A"], .embedInteropTypes true, .aliases ["B", "A"]]
    let q : Properties := ⟨.assembly, ["B", "A"], true⟩
    (Properties.assembly.Valid ∧ Properties.module.Valid) ∧
      (Properties.module.withAliases ["A"] >>= (·.withEmbedInteropTypes true)) =
        .error .moduleAliases ∧
      (Properties.assembly.withAliases ["A"] >>= (·.withEmbedInteropTypes true)) =
        Properties.assembly.withEmbedInteropTypes true >>= (·.withAliases ["A"]) ∧
      Edit.applyAll edits .assembly = .ok q ∧ Properties.new .assembly ["B", "A"] true = .ok q ∧
      ∃ updates after last later, updates.map Prod.fst = edits.map Edit.update ∧
        Chain s ⟨0⟩ updates after last ∧ after.reference? last = some later ∧
        later.properties = q := by
  intro s edits q
  have assembly : Properties.assembly.Valid := Properties.Obtainable.assembly.valid
  have alone : Properties.module.Valid := Properties.Obtainable.module.valid
  have edited : Edit.applyAll edits .assembly = .ok q := rfl
  have found : s.reference? ⟨0⟩ = some ⟨⟨0, .memory { data := [77] }⟩, none, .assembly, none⟩ := rfl
  obtain ⟨commute, made, follow⟩ := edits_commute_and_last_wins
  obtain ⟨-, same, -⟩ := commute .assembly assembly ["A"] true
  obtain ⟨-, -, refused⟩ := commute .module alone ["A"] true
  obtain ⟨⟨updates, after, last, listed, chain⟩, ends⟩ :=
    follow _ _ ⟨0⟩ _ found (.memory _) edits q edited
  obtain ⟨later, there, properties, -⟩ := ends updates after last listed chain
  exact ⟨⟨assembly, alone⟩, (refused ⟨rfl, by decide, rfl⟩).1, same (by decide), edited,
    made .assembly assembly edits q edited, updates, after, last, later, listed, chain, there,
    properties⟩

end Session

end ImageRefs
