import TaskBoard.Proofs.Json.RecordText
import TaskBoard.Proofs.Time.MomentText
import TaskBoard.Proofs.Uuid
import TaskBoard.Task.Json

/-!
# Tasks and their JSON texts

A task is read back from its JSON text exactly if its moments are legible. So is each task that has
been read, since only legible moments are read.
-/

namespace TaskBoard

open Json Text Time

theorem Status.ofName?_name (status : Status) : ofName? status.name.toList = some status := by
  cases status <;> rfl

/-! ## What is read -/

theorem legible_of_momentReader {s rest : Bytes} {m : Moment}
    (h : momentReader s = .ok (m, rest)) : m.Legible := by
  obtain ⟨text, htext⟩ := exists_of_textOf h
  exact Moment.legible_of_parse? htext

theorem legible_of_optional {s rest : Bytes} {given : Option Moment}
    (h : optional momentReader s = .ok (given, rest)) : ∀ m ∈ given, m.Legible := by
  rintro m rfl
  obtain ⟨_, _, hread⟩ := exists_of_optional h
  exact legible_of_momentReader hread

theorem Draft.legible_of_ofJson {s : Bytes} {draft : Draft} (h : ofJson s = .ok draft) :
    ∀ m ∈ draft.dueDate, m.Legible := by
  let P (p : Partial) : Prop := ∀ m ∈ p.dueDate.getD none, m.Legible
  have hkeep : Keep P shape.members :=
    .cons (fun _ _ _ _ hp _ => hp) <| .cons (fun _ _ _ _ hp _ => hp) <|
    .cons (fun _ _ _ _ hp _ => hp) <|
    .cons (fun _ _ _ _ _ hread => legible_of_optional hread) .nil
  obtain ⟨p, hp, hfinish⟩ := hkeep.whole_record nofun h
  cases hfinish
  exact hp

theorem Change.legible_of_ofJson {s : Bytes} {change : Change} (h : ofJson s = .ok change) :
    ∀ m ∈ change.dueDate, m.Legible := by
  let P (p : Partial) : Prop := ∀ m ∈ p.dueDate.getD none, m.Legible
  have hkeep : Keep P shape.members :=
    .cons (fun _ _ _ _ hp _ => hp) <| .cons (fun _ _ _ _ hp _ => hp) <|
    .cons (fun _ _ _ _ hp _ => hp) <|
    .cons (fun _ _ _ _ _ hread => legible_of_optional hread) .nil
  obtain ⟨p, hp, hfinish⟩ := hkeep.whole_record nofun h
  cases hfinish
  exact hp

namespace Task

/-- The dates of a task are legible. -/
structure Legible (task : Task) : Prop where
  dueDate : task.dueDate.Legible
  createdAt : task.createdAt.Legible
  updatedAt : task.updatedAt.Legible

/-- The object that a task is written as fills its record. -/
theorem takes_toJson {task : Task} (h : task.Legible) :
    Takes (record shape) task.toJson task := by
  have hid := takes_textOf task.id.parse?_text
  have htitle := takes_text task.title
  have hdescription := takes_text task.description
  have hstatus := takes_choice task.status.ofName?_name
  have hdueDate := takes_textOf (Moment.parse?_text h.dueDate)
  have hcreatedAt := takes_textOf (Moment.parse?_text h.createdAt)
  have hupdatedAt := takes_textOf (Moment.parse?_text h.updatedAt)
  refine takes_record (.cons rfl rfl (takes_member hid _) <| .cons rfl rfl (takes_member htitle _) <|
    .cons rfl rfl (takes_member hdescription _) <| .cons rfl rfl (takes_member hstatus _) <|
    .cons rfl rfl (takes_member hdueDate _) <| .cons rfl rfl (takes_member hcreatedAt _) <|
    .cons rfl rfl (takes_member hupdatedAt _) <| .nil _) rfl

theorem ofJson_toJson {task : Task} (h : task.Legible) :
    ofJson (Utf8.encode task.toJson) = .ok task := by
  have hread := takes_toJson h []
  rw [List.append_nil] at hread
  exact whole_eq_ok_iff.mpr ⟨[], hread, by simp [Blank]⟩

/-- The dates that have been read so far are legible. -/
structure Partial.Legible (p : Partial) : Prop where
  dueDate : ∀ m ∈ p.dueDate, m.Legible
  createdAt : ∀ m ∈ p.createdAt, m.Legible
  updatedAt : ∀ m ∈ p.updatedAt, m.Legible

theorem Partial.keep_legible : Keep Partial.Legible shape.members := by
  have hmoment {s rest : Bytes} {m : Moment} (h : momentReader s = .ok (m, rest)) :
      ∀ m' ∈ some m, m'.Legible := by
    rintro m' ⟨⟩
    exact legible_of_momentReader h
  exact .cons (fun _ _ _ _ hp _ => ⟨hp.dueDate, hp.createdAt, hp.updatedAt⟩) <|
    .cons (fun _ _ _ _ hp _ => ⟨hp.dueDate, hp.createdAt, hp.updatedAt⟩) <|
    .cons (fun _ _ _ _ hp _ => ⟨hp.dueDate, hp.createdAt, hp.updatedAt⟩) <|
    .cons (fun _ _ _ _ hp _ => ⟨hp.dueDate, hp.createdAt, hp.updatedAt⟩) <|
    .cons (fun _ _ _ _ hp hread => ⟨hmoment hread, hp.createdAt, hp.updatedAt⟩) <|
    .cons (fun _ _ _ _ hp hread => ⟨hp.dueDate, hmoment hread, hp.updatedAt⟩) <|
    .cons (fun _ _ _ _ hp hread => ⟨hp.dueDate, hp.createdAt, hmoment hread⟩) .nil

theorem legible_of_ofJson {s : Bytes} {task : Task} (h : ofJson s = .ok task) : task.Legible := by
  obtain ⟨p, hp, hfinish⟩ := Partial.keep_legible.whole_record ⟨nofun, nofun, nofun⟩ h
  have hcomplete : p.complete = some task := hfinish
  simp only [Partial.complete, bind, pure, Option.bind_eq_some_iff, Option.some.injEq] at hcomplete
  obtain ⟨id, -, title, -, description, -, status, -, dueDate, hdueDate, createdAt, hcreatedAt,
    updatedAt, hupdatedAt, rfl⟩ := hcomplete
  exact ⟨hp.dueDate _ hdueDate, hp.createdAt _ hcreatedAt, hp.updatedAt _ hupdatedAt⟩

theorem ofJson_toJson_iff {task : Task} :
    ofJson (Utf8.encode task.toJson) = .ok task ↔ task.Legible :=
  ⟨legible_of_ofJson, ofJson_toJson⟩

end Task

end TaskBoard
