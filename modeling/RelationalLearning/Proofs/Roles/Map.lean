import RelationalLearning.Proofs.Roles

/-!
What edits do to the map from names to roles. An edit gives a name its role, takes over the roles of
another container, or takes names away; the buckets stay disjoint, and within a bucket the names
keep their order, but for those that are taken over.
-/

namespace RelationalLearning.Roles

inductive Edit where
  | assign (name : String) (role : Role)
  | takeOver (other : Roles)
  | remove (names : List String)

namespace Edit

def apply (roles : Roles) : Edit → Roles
  | .assign name role => roles.withColumn name role
  | .takeOver other => roles.update other
  | .remove names => roles.without names

def Valid : Edit → Prop
  | .takeOver other => other.validate = .ok ()
  | _ => True

/-- The map from names to roles after an edit, from the map before it. -/
def onMap (roleOf : String → Option Role) : Edit → String → Option Role
  | .assign name role, column => if column = name then some role else roleOf column
  | .takeOver other, column => (other.role? column).or (roleOf column)
  | .remove names, column => if column ∈ names then none else roleOf column

def Renews : Edit → String → Prop
  | .takeOver other, column => (other.role? column).isSome
  | _, _ => False

end Edit

def edited (roles : Roles) (edits : List Edit) : Roles := edits.foldl Edit.apply roles

def Precedes (roles : Roles) (role : Role) (first second : String) : Prop :=
  [first, second].Sublist (roles.names role)

theorem mem_withColumn (roles : Roles) (name : String) (given : Role) (column : String)
    (role : Role) :
    column ∈ (roles.withColumn name given).names role ↔
      if column = name then role = given else column ∈ roles.names role := by
  rw [withColumn, names_ofBuckets]
  by_cases own : role = given
  · by_cases present : name ∈ roles.names given
    · by_cases same : column = name <;> simp [own, present, same]
    · by_cases same : column = name <;> simp [own, present, same]
  · by_cases same : column = name <;> simp [own, same]

theorem mem_update (roles other : Roles) (column : String) (role : Role) :
    column ∈ (roles.update other).names role ↔
      column ∈ roles.names role ∧ other.role? column = none ∨ column ∈ other.names role := by
  simp [update, contains]

theorem mem_without (roles : Roles) (removed : List String) (column : String) (role : Role) :
    column ∈ (roles.without removed).names role ↔ column ∈ roles.names role ∧ column ∉ removed := by
  simp [without]

/-- Buckets that list the columns of a map, each once, are disjoint and stand for the map. -/
theorem stands_for_map (roles : Roles) (roleOf : String → Option Role)
    (distinct : ∀ role, (roles.names role).Nodup)
    (listed : ∀ column role, column ∈ roles.names role ↔ roleOf column = some role) :
    roles.validate = .ok () ∧ ∀ column, roles.role? column = roleOf column := by
  have valid : roles.validate = .ok () := by
    rw [validate_eq_ok, nodup_columns]
    refine ⟨distinct, ?_⟩
    intro column first second inFirst inSecond
    have one := (listed column first).mp inFirst
    have two := (listed column second).mp inSecond
    exact Option.some.inj (one.symm.trans two)
  refine ⟨valid, ?_⟩
  intro column
  ext role
  rw [roles.role?_eq_some valid, listed]

theorem mem_apply (roles : Roles) (valid : roles.validate = .ok ()) (edit : Edit)
    (accepted : edit.Valid) (column : String) (role : Role) :
    column ∈ (edit.apply roles).names role ↔ edit.onMap roles.role? column = some role := by
  cases edit with
  | assign name given =>
      rw [Edit.apply, mem_withColumn, Edit.onMap]
      by_cases same : column = name
      · simp [same, eq_comm]
      · simp [same, roles.role?_eq_some valid]
  | takeOver other =>
      rw [Edit.apply, mem_update, Edit.onMap, ← roles.role?_eq_some valid,
        ← other.role?_eq_some accepted]
      cases other.role? column <;> simp
  | remove names =>
      rw [Edit.apply, mem_without, Edit.onMap]
      by_cases gone : column ∈ names
      · simp [gone]
      · simp [gone, roles.role?_eq_some valid]

theorem nodup_apply (roles : Roles) (valid : roles.validate = .ok ()) (edit : Edit)
    (accepted : edit.Valid) (role : Role) : ((edit.apply roles).names role).Nodup := by
  obtain ⟨distinct, -⟩ := roles.nodup_columns.mp (roles.validate_eq_ok.mp valid)
  cases edit with
  | assign name given =>
      rw [Edit.apply, withColumn, names_ofBuckets]
      split
      next own =>
        subst own
        split
        next => exact distinct role
        next absent =>
          apply (distinct role).append (List.nodup_singleton _)
          intro column member single
          obtain rfl := List.mem_singleton.mp single
          exact absent (List.contains_iff_mem.mpr member)
      next => exact (distinct role).filter _
  | takeOver other =>
      obtain ⟨others, -⟩ := other.nodup_columns.mp (other.validate_eq_ok.mp accepted)
      rw [Edit.apply, update, names_ofBuckets]
      apply ((distinct role).filter _).append (others role)
      intro column kept taken
      have unnamed : other.role? column = none := by simpa [contains] using (List.mem_filter.mp kept).2
      rw [(other.role?_eq_some accepted column role).mpr taken] at unnamed
      cases unnamed
  | remove names =>
      rw [Edit.apply, without, names_ofBuckets]
      exact (distinct role).filter _

theorem apply_acts (roles : Roles) (valid : roles.validate = .ok ()) (edit : Edit)
    (accepted : edit.Valid) :
    (edit.apply roles).validate = .ok () ∧
      ∀ column, (edit.apply roles).role? column = edit.onMap roles.role? column :=
  stands_for_map _ _ (roles.nodup_apply valid edit accepted) (roles.mem_apply valid edit accepted)

theorem precedes_filter (keep : String → Bool) (first second : String) (names : List String)
    (before : [first, second].Sublist names) (one : keep first = true) (two : keep second = true) :
    [first, second].Sublist (names.filter keep) := by
  simpa [one, two] using before.filter keep

theorem precedes_withColumn (roles : Roles) (name : String) (given role : Role)
    (first second : String) (before : roles.Precedes role first second)
    (apart : role ≠ given → first ≠ name ∧ second ≠ name) :
    (roles.withColumn name given).Precedes role first second := by
  unfold Precedes at before ⊢
  rw [withColumn, names_ofBuckets]
  split
  next own =>
    subst own
    split
    next => exact before
    next => exact before.trans (List.sublist_append_left _ _)
  next other =>
    obtain ⟨one, two⟩ := apart other
    exact precedes_filter _ first second _ before (by simpa using one) (by simpa using two)

theorem precedes_without (roles : Roles) (removed : List String) (role : Role)
    (first second : String) (before : roles.Precedes role first second) (one : first ∉ removed)
    (two : second ∉ removed) : (roles.without removed).Precedes role first second := by
  unfold Precedes at before ⊢
  rw [without, names_ofBuckets]
  exact precedes_filter _ first second _ before (by simpa using one) (by simpa using two)

theorem precedes_update_of_unnamed (roles other : Roles) (role : Role) (first second : String)
    (before : roles.Precedes role first second) (one : other.role? first = none)
    (two : other.role? second = none) : (roles.update other).Precedes role first second := by
  unfold Precedes at before ⊢
  rw [update, names_ofBuckets]
  have kept := precedes_filter (fun name => !other.contains name) first second _ before
    (by simp [contains, one]) (by simp [contains, two])
  exact kept.trans (List.sublist_append_left _ _)

theorem precedes_update (roles other : Roles) (role : Role) (first second : String) :
    (other.Precedes role first second → (roles.update other).Precedes role first second) ∧
    (first ∈ roles.names role → other.role? first = none → second ∈ other.names role →
      (roles.update other).Precedes role first second) := by
  unfold Precedes
  rw [update, names_ofBuckets]
  constructor
  · exact fun before => before.trans (List.sublist_append_right _ _)
  · intro present unnamed taken
    have front : first ∈ (roles.names role).filter fun name => !other.contains name := by
      simp [present, contains, unnamed]
    exact (List.singleton_sublist.mpr front).append (List.singleton_sublist.mpr taken)

theorem precedes_apply (roles : Roles) (edit : Edit) (accepted : edit.Valid) (role : Role)
    (first second : String) (before : roles.Precedes role first second)
    (keptFirst : edit.onMap roles.role? first = some role)
    (keptSecond : edit.onMap roles.role? second = some role) (old : ¬ edit.Renews first) :
    (edit.apply roles).Precedes role first second := by
  cases edit with
  | assign name given =>
      -- what stays in another bucket than the one given is not the column that is moved
      have apart (column : String)
          (kept : (Edit.assign name given).onMap roles.role? column = some role)
          (other : role ≠ given) : column ≠ name := by
        rintro rfl
        exact other (by simpa [Edit.onMap, eq_comm] using kept)
      exact roles.precedes_withColumn name given role first second before
        fun other => ⟨apart first keptFirst other, apart second keptSecond other⟩
  | takeOver other =>
      have unnamed : other.role? first = none := by simpa [Edit.Renews] using old
      cases taken : other.role? second with
      | none => exact roles.precedes_update_of_unnamed other role first second before unnamed taken
      | some given =>
          obtain rfl : given = role := by simpa [Edit.onMap, taken] using keptSecond
          have present : first ∈ roles.names given := List.Sublist.subset before (by simp)
          exact (roles.precedes_update other given first second).2 present unnamed
            (other.mem_names_of_role? second given taken)
  | remove names =>
      have stays (column : String)
          (kept : (Edit.remove names).onMap roles.role? column = some role) : column ∉ names := by
        intro gone
        simp [Edit.onMap, gone] at kept
      exact roles.precedes_without names role first second before (stays first keptFirst)
        (stays second keptSecond)

theorem edited_acts (roles : Roles) (valid : roles.validate = .ok ()) (edits : List Edit)
    (accepted : ∀ edit ∈ edits, edit.Valid) :
    (roles.edited edits).validate = .ok () ∧
      ∀ column, (roles.edited edits).role? column = edits.foldl Edit.onMap roles.role? column := by
  induction edits generalizing roles with
  | nil => exact ⟨valid, fun _ => rfl⟩
  | cons edit edits ih =>
      obtain ⟨still, same⟩ := roles.apply_acts valid edit (accepted edit (by simp))
      have after := ih (edit.apply roles) still fun other member => accepted other (by simp [member])
      rw [funext same] at after
      exact after

theorem count_columns (roles : Roles) (valid : roles.validate = .ok ()) (column : String) :
    roles.columns.count column = if (roles.role? column).isSome then 1 else 0 := by
  have distinct := roles.validate_eq_ok.mp valid
  have listed : column ∈ roles.columns ↔ (roles.role? column).isSome := by
    simp [columns, role?_isSome, Role.mem_all]
  split
  next named => exact List.count_eq_one_of_mem distinct (listed.mpr named)
  next unnamed => exact List.count_eq_zero.mpr fun member => unnamed (listed.mp member)

/--
After all edits the buckets are disjoint and stand for the map that the edits lead to, in which no
column is lost and none stands twice. Each further edit leaves the columns that keep their role in
their order, but for those that are taken over: these come last, in the order that they come in.
-/
theorem edits_act_on_map (roles : Roles) (valid : roles.validate = .ok ()) (edits : List Edit)
    (accepted : ∀ edit ∈ edits, edit.Valid) :
    (roles.edited edits).validate = .ok () ∧
    (∀ column, (roles.edited edits).role? column = edits.foldl Edit.onMap roles.role? column) ∧
    (∀ column, (roles.edited edits).columns.count column =
      if (edits.foldl Edit.onMap roles.role? column).isSome then 1 else 0) ∧
    (∀ edit : Edit, edit.Valid → ∀ role first second,
      (roles.edited edits).Precedes role first second →
      (edit.apply (roles.edited edits)).role? first = some role →
      (edit.apply (roles.edited edits)).role? second = some role → ¬ edit.Renews first →
      (edit.apply (roles.edited edits)).Precedes role first second) ∧
    ∀ (other : Roles) (role : Role) (first second : String),
      (other.Precedes role first second →
        ((roles.edited edits).update other).Precedes role first second) ∧
      (first ∈ (roles.edited edits).names role → other.role? first = none →
        second ∈ other.names role → ((roles.edited edits).update other).Precedes role first second) := by
  obtain ⟨still, same⟩ := roles.edited_acts valid edits accepted
  refine ⟨still, same, ?_, ?_, (roles.edited edits).precedes_update⟩
  · intro column
    rw [count_columns _ still, same]
  · intro edit fits role first second before keptFirst keptSecond old
    obtain ⟨-, acts⟩ := (roles.edited edits).apply_acts still edit fits
    rw [acts] at keptFirst keptSecond
    exact precedes_apply _ edit fits role first second before keptFirst keptSecond old

def rated : Roles := { joinKey := ["id"], numerical := ["amount", "rate"] }

def ratedEdits : List Edit :=
  [.assign "amount" .target, .takeOver { numerical := ["rate", "age"] }, .remove ["id"]]

theorem edits_act_on_map_rated : rated.validate = .ok () ∧ (∀ edit ∈ ratedEdits, edit.Valid) ∧
    rated.edited ratedEdits = { target := ["amount"], numerical := ["rate", "age"] } ∧
    (rated.edited ratedEdits).validate = .ok () ∧
    (rated.edited ratedEdits).columns.count "rate" = 1 := by
  have accepted : ∀ edit ∈ ratedEdits, edit.Valid := by
    simp only [ratedEdits, List.forall_mem_cons, List.not_mem_nil, false_implies, implies_true]
    have other : ({ numerical := ["rate", "age"] } : Roles).validate = .ok () := by decide
    exact ⟨trivial, other, trivial, trivial⟩
  obtain ⟨still, -, once, -⟩ := edits_act_on_map rated (by decide) ratedEdits accepted
  exact ⟨by decide, accepted, by decide, still, (once "rate").trans (by decide)⟩

/-- A column that is taken over in the role that it has goes behind the others. -/
theorem update_moves_last :
    ¬ ∀ (roles other : Roles) (role : Role) (first second : String),
      roles.validate = .ok () → other.validate = .ok () → roles.Precedes role first second →
      (roles.update other).role? first = some role → (roles.update other).role? second = some role →
      (roles.update other).Precedes role first second := by
  intro kept
  have moved : ¬ (rated.update { numerical := ["amount"] }).Precedes .numerical "amount" "rate" := by
    unfold Precedes
    decide
  apply moved
  apply kept rated _ .numerical "amount" "rate" (by decide) (by decide)
  · unfold Precedes
    decide
  · decide
  · decide

end RelationalLearning.Roles
