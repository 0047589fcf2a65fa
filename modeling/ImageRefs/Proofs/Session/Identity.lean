import ImageRefs.Proofs.Session.Run

/-!
The identity of references under updates. Only an update that asks for what is there already keeps
a reference; on the way back from another value there is another reference.
-/

set_option autoImplicit false

namespace ImageRefs

/-- Successful updates one after the other, each of the reference that the one before gave. Each is
listed with the properties that it meets. Other actions may come in between. -/
inductive Chain : Session → RefId → List (Update × Properties) → Session → RefId → Prop where
  | done (s : Session) (id : RefId) : Chain s id [] s id
  | between {s after : Session} {id last : RefId} {updates : List (Update × Properties)}
      (a : Action) (rest : Chain (s.act a).2 id updates after last) : Chain s id updates after last
  | update {s after : Session} {id next last : RefId} {r : Reference}
      {updates : List (Update × Properties)} (u : Update) (found : s.reference? id = some r)
      (given : (s.act (u.action id)).1 = .reference (.ok next))
      (rest : Chain (s.act (u.action id)).2 next updates after last) :
      Chain s id ((u, r.properties) :: updates) after last

namespace Session

variable {s : Session} {id next : RefId} {r : Reference} {u : Update}

/-- What is not there after an action was not there before. -/
theorem reference?_none_of_act (a : Action) (absent : (s.act a).2.reference? id = none) :
    s.reference? id = none := by
  cases found : s.reference? id with
  | none => rfl
  | some r =>
    obtain ⟨later, present, -⟩ := act_later a found
    rw [absent] at present
    cases present

theorem reference?_next : s.reference? ⟨s.references.length⟩ = none :=
  reference?_eq_none_iff.mpr le_rfl

/-- A successful update gives a reference that differs at most in its properties. -/
theorem reference?_of_update (found : s.reference? id = some r)
    (given : (s.act (u.action id)).1 = .reference (.ok next)) :
    (s.act (u.action id)).2.reference? next =
      some (r.withProperties (u.applied r.properties)) := by
  obtain ⟨-, ⟨keeps, rfl, same⟩ | ⟨-, rfl, made⟩⟩ := act_update_ok u found given
  · rw [same, found, Update.applied_eq_iff.mpr keeps]
    rfl
  · rw [made]
    exact List.getElem?_concat_length

/-- The same update again gives the same reference again, whatever happens in between. -/
theorem act_update_again (found : s.reference? id = some r)
    (given : (s.act (u.action id)).1 = .reference (.ok next)) (between : List Action) :
    ((s.act (u.action id)).2.run between).act (u.action next) =
      (.reference (.ok next), (s.act (u.action id)).2.run between) := by
  obtain ⟨requested, -⟩ := act_update_ok u found given
  obtain ⟨later, there, kept⟩ := run_later between (reference?_of_update found given)
  have properties : later.properties = u.applied r.properties := kept.properties
  apply act_update_same u there
  rw [properties]
  exact Update.requested_again requested

theorem chain_last {updates : List (Update × Properties)} {after : Session} {last : RefId}
    (chain : Chain s id updates after last) (found : s.reference? id = some r) :
    (last = id ∧ ∀ step ∈ updates, step.1.Keeps step.2) ∨
      (s.reference? last = none ∧ ∃ step ∈ updates, ¬step.1.Keeps step.2) := by
  induction chain generalizing r with
  | done s id => exact Or.inl ⟨rfl, by simp⟩
  | between a rest ih =>
    obtain ⟨later, found, -⟩ := act_later a found
    rcases ih found with kept | ⟨absent, changed⟩
    · exact Or.inl kept
    · exact Or.inr ⟨reference?_none_of_act a absent, changed⟩
  | @update s after id next last old updates u holder given rest ih =>
    have there := reference?_of_update holder given
    obtain ⟨-, ⟨keeps, rfl, same⟩ | ⟨changes, rfl, made⟩⟩ := act_update_ok u holder given
    · rcases ih there with ⟨rfl, kept⟩ | ⟨absent, changed⟩
      · refine Or.inl ⟨rfl, ?_⟩
        rintro step (_ | ⟨_, member⟩)
        · exact keeps
        · exact kept step member
      · obtain ⟨step, member, changes⟩ := changed
        exact Or.inr ⟨reference?_none_of_act _ absent, step, List.mem_cons_of_mem _ member, changes⟩
    · -- From here on there is a new reference, and only newer ones follow.
      refine Or.inr ⟨?_, (u, old.properties), List.mem_cons_self, changes⟩
      rcases ih there with ⟨rfl, -⟩ | ⟨absent, -⟩
      · exact reference?_next
      · exact reference?_none_of_act _ absent

/-- A successful update gives the same reference, and leaves the session as it is, exactly if it
asks for what is there. Otherwise it gives one that was not there, with the same source and path
and the new properties. Asked for again, it gives its own result. A chain of updates ends where it
began exactly if none of them changed anything. -/
theorem update_same_iff_keeps (s : Session) (id : RefId) (r : Reference)
    (found : s.reference? id = some r) :
    (∀ (u : Update) (next : RefId), (s.act (u.action id)).1 = .reference (.ok next) →
      (next = id ↔ u.Keeps r.properties) ∧
      (next = id → (s.act (u.action id)).2 = s) ∧
      (next ≠ id → s.reference? next = none) ∧
      (s.act (u.action id)).2.reference? next =
        some { r with properties := u.applied r.properties } ∧
      ∀ between : List Action,
        ((s.act (u.action id)).2.run between).act (u.action next) =
          (.reference (.ok next), (s.act (u.action id)).2.run between)) ∧
    ∀ (updates : List (Update × Properties)) (after : Session) (last : RefId),
      Chain s id updates after last →
        (last = id ↔ ∀ step ∈ updates, step.1.Keeps step.2) ∧
        (last ≠ id → s.reference? last = none) := by
  have old : ∀ other, s.reference? other = none → other ≠ id := by
    rintro other absent rfl
    rw [found] at absent
    cases absent
  constructor
  · intro u next given
    refine ⟨?_, ?_, ?_, reference?_of_update found given, act_update_again found given⟩
    all_goals
      obtain ⟨-, ⟨keeps, same, unchanged⟩ | ⟨changes, rfl, made⟩⟩ := act_update_ok u found given
    · exact iff_of_true same keeps
    · exact iff_of_false (old _ reference?_next) changes
    · exact fun _ => unchanged
    · exact fun same => absurd same (old _ reference?_next)
    · exact fun different => absurd same different
    · exact fun _ => reference?_next
  · intro updates after last chain
    rcases chain_last chain found with ⟨same, kept⟩ | ⟨absent, step, member, changes⟩
    · exact ⟨iff_of_true same kept, fun different => absurd same different⟩
    · exact ⟨iff_of_false (old last absent) fun kept => changes (kept step member), fun _ => absent⟩

/-- Interop types that are embedded, and then no longer embedded: the reference at the end has the
properties of the first one, and yet is another. -/
theorem embedding_undone_differs :
    let s := ({ disk := .empty [] } : Session).run
      [.makeSource (.memory { data := [77] }), .create 0 none .assembly]
    let updates : List (Update × Properties) :=
      [(.embedInteropTypes true, .assembly), (.embedInteropTypes false, ⟨.assembly, [], true⟩)]
    s.reference? ⟨0⟩ = some ⟨⟨0, .memory { data := [77] }⟩, none, .assembly, none⟩ ∧
      ∃ after, Chain s ⟨0⟩ updates after ⟨2⟩ ∧
        (after.reference? ⟨2⟩).map Reference.properties = some .assembly ∧
        (¬∀ step ∈ updates, step.1.Keeps step.2) ∧ s.reference? ⟨2⟩ = none := by
  intro s updates
  have found : s.reference? ⟨0⟩ = some ⟨⟨0, .memory { data := [77] }⟩, none, .assembly, none⟩ := rfl
  have embedded : (s.act (.withEmbedInteropTypes ⟨0⟩ true)).1 = .reference (.ok ⟨1⟩) := rfl
  have there : (s.act (.withEmbedInteropTypes ⟨0⟩ true)).2.reference? ⟨1⟩ =
      some ⟨⟨0, .memory { data := [77] }⟩, none, ⟨.assembly, [], true⟩, none⟩ := rfl
  have undone : ((s.act (.withEmbedInteropTypes ⟨0⟩ true)).2.act
      (.withEmbedInteropTypes ⟨1⟩ false)).1 = .reference (.ok ⟨2⟩) := rfl
  have chain : Chain s ⟨0⟩ updates
      (s.run [.withEmbedInteropTypes ⟨0⟩ true, .withEmbedInteropTypes ⟨1⟩ false]) ⟨2⟩ :=
    .update (.embedInteropTypes true) found embedded
      (.update (.embedInteropTypes false) there undone (.done _ _))
  obtain ⟨same, absent⟩ := (update_same_iff_keeps s ⟨0⟩ _ found).2 _ _ _ chain
  have different : (⟨2⟩ : RefId) ≠ ⟨0⟩ := by decide
  exact ⟨found, _, chain, rfl, fun kept => different (same.mpr kept), absent different⟩

end Session

end ImageRefs
