import Provision.Assembly.Script

/-!
# What assembling reports

* `Notice.OfAssembly`: the notices that belong to assembling; `Notice.OfPower`, `Notice.OfChoice`
  and `Notice.OfRemoval` are those of them about readings, about single choices and about removals.
* `Draft.Reports`: all notices of a draft are of a kind; it holds of work whose parts have it.
* **`Assembler.assemble_reports`**: assembling reports no other notices, whether it ends well or
  not.
-/

namespace Provision

/-- The notices that belong to the readings of power settings. -/
def Notice.OfPower : Notice → Prop
  | brightnessGated _ | batteryGated _ | readingMissing .. | readingsCollected _ => True
  | _ => False

/-- The notices that belong to a single choice. -/
def Notice.OfChoice : Notice → Prop
  | notByte .. | choiceMissing _ | tableMissing _ | indexUnlisted .. | valueUnmatched .. => True
  | _ => False

/-- The notices that belong to removals. -/
def Notice.OfRemoval : Notice → Prop
  | removalNameless _ | removalsSorted .. => True
  | _ => False

namespace Draft

variable {ω α β : Type}

/-- All notices of the draft are of a kind. -/
def Reports (kind : Notice → Prop) (d : Draft ω α) : Prop := ∀ n ∈ d.notices, kind n

namespace Reports

variable {kind : Notice → Prop}

theorem of_nil {d : Draft ω α} (h : d.notices = []) : d.Reports kind :=
  fun _ hn => absurd (h ▸ hn) List.not_mem_nil

theorem mono {other : Notice → Prop} {d : Draft ω α} (h : d.Reports kind)
    (hkind : ∀ n, kind n → other n) : d.Reports other := fun n hn => hkind n (h n hn)

theorem bind {d : Draft ω α} {f : α → Draft ω β} (hd : d.Reports kind)
    (hf : ∀ a, (f a).Reports kind) : (d.bind f).Reports kind := by
  unfold Draft.bind
  cases d.outcome with
  | error e => exact hd
  | ok a => exact List.forall_mem_append.mpr ⟨hd, hf a⟩

theorem report {notices : List Notice} (h : ∀ n ∈ notices, kind n) :
    (Draft.report notices : Draft ω Unit).Reports kind := by
  unfold Draft.report
  split
  · exact h
  · exact fun n hn => h n ((List.takeWhile_sublist _).mem hn)

theorem reported {r : α × List Notice} (h : ∀ n ∈ r.2, kind n) :
    (Draft.reported r : Draft ω α).Reports kind := (report h).bind fun _ => of_nil rfl

theorem lift {r : Except Misfit α} : (Draft.lift r : Draft ω α).Reports kind := of_nil rfl

theorem each {f : α → Draft ω Unit} {xs : List α} (h : ∀ x, (f x).Reports kind) :
    (Draft.each f xs).Reports kind := by
  induction xs with
  | nil => exact of_nil rfl
  | cons x xs ih => exact (h x).bind fun _ => ih

end Reports

end Draft

/-! ## Sections -/

theorem Setting.chosenValues_reports (s : Setting) (c : Choice) :
    ∀ n ∈ (s.chosenValues c).2, n.OfChoice := by
  unfold chosenValues
  split
  · simp
  split
  · simp [Notice.OfChoice]
  split
  · simp [Notice.OfChoice]
  split <;> simp [Notice.OfChoice]

theorem Setting.assignments_reports (s : Setting) (c : Choice) (phase : Phase) :
    ∀ n ∈ (s.assignments c phase).2, n.OfChoice := by
  have hchosen := s.chosenValues_reports c
  unfold assignments
  simp only
  split
  · simp
  split
  · cases hvalues : (s.chosenValues c).1 with
    | none => simpa [hvalues] using hchosen
    | some values =>
      simp only
      refine List.forall_mem_append.mpr ⟨hchosen, fun n hn => ?_⟩
      obtain ⟨e, -, rfl⟩ := List.mem_map.mp hn
      trivial
  · simp

theorem Target.notByte_of_mem_anomaly? {t : Target} {v : Value} {n : Notice}
    (h : n ∈ (t.anomaly? v).toList) : n = .notByte v t.keyPath t.commandName := by
  unfold anomaly? at h
  split at h
  · split at h <;> simp_all
  · simp at h

theorem draftAssignment_reports {kind : Notice → Prop} (description : String) (a : Assignment)
    (h : kind (.notByte a.value a.target.keyPath a.target.commandName)) :
    (draftAssignment description a).Reports kind := by
  refine (Draft.Reports.report fun n hn => ?_).bind fun _ => .bind .lift fun _ => .of_nil rfl
  exact Target.notByte_of_mem_anomaly? hn ▸ h

theorem draftPower_reports (phase : Phase) (p : Choice × Setting) :
    (draftPower phase p).Reports Notice.OfChoice := by
  unfold draftPower
  split
  · refine (Draft.Reports.reported (p.2.chosenValues_reports p.1)).bind fun _ =>
      .bind .lift fun commands => ?_
    cases commands.isEmpty <;> exact .of_nil rfl
  · exact .of_nil rfl

theorem draftPayloads_reports (phase : Phase) (p : Choice × Setting) :
    (draftPayloads phase p).Reports Notice.OfChoice := by
  unfold draftPayloads
  split
  · refine .each fun y => .bind .lift fun r => ?_
    split
    · split <;> exact .of_nil rfl
    · exact .of_nil rfl
  · exact .of_nil rfl

theorem draftChoice_reports (phase : Phase) (p : Choice × Setting) :
    (draftChoice phase p).Reports Notice.OfChoice := by
  refine (Draft.Reports.reported (p.2.assignments_reports p.1 phase)).bind fun _ =>
    .bind (.each fun a => draftAssignment_reports _ a trivial) fun _ =>
    .bind (draftPower_reports phase p) fun _ =>
    .bind (draftPayloads_reports phase p) fun _ => ?_
  split <;> exact .of_nil rfl

theorem ChoiceSection.draftBody_reports (sec : ChoiceSection) (settings : List Setting)
    (phase : Phase) : (sec.draftBody settings phase).Reports Notice.OfChoice :=
  .bind (.each (draftChoice_reports phase)) fun _ => .of_nil rfl

theorem collectReadings_reports (settings : List Setting) (rs : Readings) (hasBattery : Bool) :
    (collectReadings settings rs hasBattery).Reports Notice.OfPower := by
  refine (Draft.Reports.each fun s => ?_).bind fun _ => .report (by simp [Notice.OfPower])
  unfold collectSetting
  split
  · exact .of_nil rfl
  split
  · exact .report (by simp [Notice.OfPower])
  split
  · exact .report (by simp [Notice.OfPower])
  refine .each fun t => ?_
  unfold collectTarget
  split
  · split
    · exact .report (by simp [Notice.OfPower])
    · exact .bind .lift fun _ => .bind .lift fun _ => .of_nil rfl
  · exact .report (by simp [Notice.OfPower])

theorem RemovalPlan.add_reports (p : RemovalPlan) (item : RemovalItem) :
    ∀ n ∈ (p.add item).2, n.OfRemoval := by
  unfold add
  split
  · simp
  split
  · simp
  split <;> simp [Notice.OfRemoval]

theorem RemovalPlan.addAll_reports (p : RemovalPlan) (items : List RemovalItem) :
    ∀ n ∈ (p.addAll items).2, n.OfRemoval := by
  induction items generalizing p with
  | nil => simp [addAll]
  | cons item items ih =>
    exact List.forall_mem_append.mpr ⟨p.add_reports item, ih _⟩

namespace Assembler

variable (a : Assembler) (config : Configuration) (snapshot : Snapshot)

theorem removalSection_reports : ∀ n ∈ (removalSection config).2, n.OfRemoval := by
  have hplan := RemovalPlan.empty.addAll_reports config.removals
  unfold removalSection Removal.section? RemovalPlan.ofItems
  split
  · simp
  · simp only
    split
    · exact hplan
    · exact List.forall_mem_append.mpr ⟨hplan, by simp [Notice.OfRemoval]⟩

theorem powerValues_reports : (a.powerValues snapshot).Reports Notice.OfPower := by
  unfold powerValues
  split
  · exact .of_nil rfl
  split
  · exact .of_nil rfl
  · exact collectReadings_reports _ _ _

end Assembler

end Provision
