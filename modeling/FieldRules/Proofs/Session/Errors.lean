import FieldRules.Proofs.Session.Ledger
import Mathlib.Data.List.Basic

/-!
# The errors of a run

A run collects messages one by one, in the order of its tasks. What comes of it can be said field by
field: the messages of the failed tasks of a field, joined, and the fields in the order of their
tasks.

Results:
* `get?_errorsOf`: a field has the messages of its failed tasks, joined.
* `errorsOf_eq`: the fields with messages, in the order of the fields.
-/

namespace FieldRules

/-! ## Mappings by their keys -/

namespace Entries

variable {α : Type}

theorem mem_keys_iff {m : Entries α} {key : String} : key ∈ m.keys ↔ m.get? key ≠ none := by
  induction m with
  | nil => simp [keys]
  | cons e m ih =>
    obtain ⟨k, v⟩ := e
    rw [get?_cons]
    by_cases h : key = k
    · simp [keys, h]
    · rw [if_neg h, ← ih]
      simp [keys, h]

/-- A mapping is told by its keys and what it has for them. -/
theorem eq_filterMap_keys {m : Entries α} (hm : m.keys.Nodup) :
    m = m.keys.filterMap fun key => (m.get? key).map (key, ·) := by
  induction m with
  | nil => rfl
  | cons e m ih =>
    obtain ⟨k, v⟩ := e
    obtain ⟨hk, hm⟩ : k ∉ keys m ∧ (keys m).Nodup := List.nodup_cons.1 hm
    have htail : (keys m).filterMap (fun key => (get? ((k, v) :: m) key).map (key, ·)) =
        (keys m).filterMap fun key => (get? m key).map (key, ·) := by
      apply List.filterMap_congr
      intro key hkey
      have hne : key ≠ k := fun h => hk (h ▸ hkey)
      rw [get?_cons, if_neg hne]
    show (k, v) :: m = (k :: keys m).filterMap _
    rw [List.filterMap_cons_some (b := (k, v)) (by simp [get?_cons]), htail, ← ih hm]

end Entries

/-! ## The messages of one field -/

theorem Task.message?_eq_some_iff {t : Task} {message : String} :
    t.message? = some message ↔ t.outcome = some (.failed message) := by
  unfold Task.message?
  cases t.outcome with
  | none => simp
  | some outcome => cases outcome <;> simp

/-- The messages of the failed tasks of a field, in their order. -/
def messagesOf (tasks : List Task) (field : String) : List String :=
  tasks.filterMap fun t => if t.field = field then t.message? else none

/-- Some messages, joined. -/
def joined (separator : String) (messages : List String) : Option String :=
  if messages = [] then none else some (separator.intercalate messages)

theorem joined_merge (separator before message : String) (rest : List String) :
    joined separator ((before ++ separator ++ message) :: rest) =
      joined separator (before :: message :: rest) := by
  simp [joined, String.intercalate_cons_cons, String.intercalate_cons_append, String.append_assoc]

theorem joined_eq_none_iff {separator : String} {messages : List String} :
    joined separator messages = none ↔ messages = [] := by
  simp [joined]

/-- The message of a failed task goes behind those that its field has. -/
theorem get?_addMessage (separator : String) (errors : Entries String)
    (field message other : String) (rest : List String) :
    joined separator (((addMessage separator errors field message).get? other).toList ++ rest) =
      joined separator ((errors.get? other).toList ++
        ((if field = other then [message] else []) ++ rest)) := by
  unfold addMessage
  by_cases h : field = other
  · subst h
    cases hg : errors.get? field with
    | none => simp
    | some before => simpa using joined_merge separator before message rest
  · cases hg : errors.get? field with
    | none => simp [h, Entries.get?_put_ne _ _ (Ne.symm h)]
    | some before => simp [h, Entries.get?_put_ne _ _ (Ne.symm h)]

theorem keys_addMessage (separator : String) (errors : Entries String) (field message : String) :
    (addMessage separator errors field message).keys =
      if field ∈ errors.keys then errors.keys else errors.keys ++ [field] := by
  unfold addMessage
  split <;> exact Entries.keys_put _ _ _

/-! ## Collecting the messages -/

/-- What a task adds to the errors. -/
def Task.addTo (separator : String) (errors : Entries String) (t : Task) : Entries String :=
  match t.message? with
  | some message => addMessage separator errors t.field message
  | none => errors

theorem errorsOf_eq_foldl (separator : String) (tasks : List Task) :
    errorsOf separator tasks = tasks.foldl (Task.addTo separator) [] := rfl

theorem messagesOf_cons (t : Task) (tasks : List Task) (field : String) :
    messagesOf (t :: tasks) field =
      (if t.field = field then t.message?.toList else []) ++ messagesOf tasks field := by
  unfold messagesOf
  rw [List.filterMap_cons]
  by_cases h : t.field = field
  · cases hm : t.message? <;> simp [h]
  · simp [h]

theorem messagesOf_append (tasks tasks' : List Task) (field : String) :
    messagesOf (tasks ++ tasks') field = messagesOf tasks field ++ messagesOf tasks' field :=
  List.filterMap_append

theorem messagesOf_eq_nil {tasks : List Task} {field : String}
    (h : ∀ t ∈ tasks, t.field ≠ field) : messagesOf tasks field = [] := by
  rw [messagesOf, List.filterMap_eq_nil_iff]
  intro t ht
  rw [if_neg (h t ht)]

theorem joined_foldl_addTo (separator : String) (tasks : List Task) (errors : Entries String)
    (field : String) :
    joined separator (((tasks.foldl (Task.addTo separator) errors).get? field).toList) =
      joined separator ((errors.get? field).toList ++ messagesOf tasks field) := by
  induction tasks generalizing errors with
  | nil => simp [messagesOf]
  | cons t tasks ih =>
    rw [List.foldl_cons, ih, messagesOf_cons]
    unfold Task.addTo
    cases hm : t.message? with
    | none => simp
    | some message => simp [get?_addMessage]

/-- A field has the messages of its failed tasks, joined. -/
theorem get?_errorsOf (separator : String) (tasks : List Task) (field : String) :
    (errorsOf separator tasks).get? field = joined separator (messagesOf tasks field) := by
  have hself : ∀ o : Option String, joined separator o.toList = o := by
    intro o
    cases o <;> simp [joined]
  have := joined_foldl_addTo separator tasks [] field
  rwa [hself] at this

/-- The fields with errors are those with a message of a failed task. -/
theorem mem_keys_errorsOf {separator : String} {tasks : List Task} {field : String} :
    field ∈ (errorsOf separator tasks).keys ↔
      ∃ t ∈ tasks, t.field = field ∧ ∃ message, t.outcome = some (.failed message) := by
  rw [Entries.mem_keys_iff, get?_errorsOf, ne_eq, joined_eq_none_iff, messagesOf,
    List.filterMap_eq_nil_iff]
  constructor
  · intro h
    obtain ⟨t, ht⟩ := not_forall.1 h
    obtain ⟨ht, hm⟩ := Classical.not_imp.1 ht
    by_cases hf : t.field = field
    · rw [if_pos hf] at hm
      obtain ⟨message, hm⟩ := Option.ne_none_iff_exists'.1 hm
      exact ⟨t, ht, hf, message, Task.message?_eq_some_iff.1 hm⟩
    · exact absurd (if_neg hf) hm
  · rintro ⟨t, ht, hf, message, hm⟩ h
    have := h t ht
    rw [if_pos hf, Task.message?_eq_some_iff.2 hm] at this
    cases this

/-! ## The order of the fields -/

/-- The tasks of one field bring its key at most once. -/
theorem keys_foldl_addTo (separator : String) {tasks : List Task} {field : String}
    (h : ∀ t ∈ tasks, t.field = field) (errors : Entries String) :
    (tasks.foldl (Task.addTo separator) errors).keys =
      if field ∈ errors.keys ∨ messagesOf tasks field = [] then errors.keys
      else errors.keys ++ [field] := by
  induction tasks generalizing errors with
  | nil => simp [messagesOf]
  | cons t tasks ih =>
    obtain ⟨hf, h⟩ := List.forall_mem_cons.1 h
    rw [List.foldl_cons, ih h, messagesOf_cons, if_pos hf]
    unfold Task.addTo
    cases hm : t.message? with
    | none => rfl
    | some message =>
      simp only [keys_addMessage, hf]
      by_cases hk : field ∈ errors.keys <;> simp [hk]

theorem field_mem_keys {fields : Entries FieldSpec} {tasks : List Task}
    (htasks : tasks.map Task.field = fields.flatMap fun e => e.2.rules.map fun _ => e.1) :
    ∀ t ∈ tasks, t.field ∈ fields.keys := by
  intro t ht
  have hmem : t.field ∈ fields.flatMap fun e => e.2.rules.map fun _ => e.1 :=
    htasks ▸ List.mem_map_of_mem ht
  obtain ⟨e, he, hrule⟩ := List.mem_flatMap.1 hmem
  obtain ⟨_, -, hfield⟩ := List.mem_map.1 hrule
  exact hfield ▸ List.mem_map_of_mem he

/-- The fields with errors come in the order in which the tasks have them. -/
theorem keys_foldl_addTo_of_map (separator : String) {fields : Entries FieldSpec}
    {tasks : List Task} {errors : Entries String} (hnd : fields.keys.Nodup)
    (hnew : ∀ field ∈ fields.keys, field ∉ errors.keys)
    (htasks : tasks.map Task.field = fields.flatMap fun e => e.2.rules.map fun _ => e.1) :
    (tasks.foldl (Task.addTo separator) errors).keys =
      errors.keys ++ fields.keys.filter fun field => messagesOf tasks field ≠ [] := by
  induction fields generalizing tasks errors with
  | nil =>
    obtain rfl : tasks = [] := by simpa using htasks
    simp [Entries.keys]
  | cons e fields ih =>
    obtain ⟨he, hnd⟩ : e.1 ∉ Entries.keys fields ∧ (Entries.keys fields).Nodup :=
      List.nodup_cons.1 hnd
    obtain ⟨hfirst, hnew⟩ :
        e.1 ∉ errors.keys ∧ ∀ field ∈ Entries.keys fields, field ∉ errors.keys :=
      List.forall_mem_cons.1 hnew
    rw [List.flatMap_cons] at htasks
    obtain ⟨own, others, rfl, hown, hothers⟩ := List.map_eq_append_iff.1 htasks
    have hownField : ∀ t ∈ own, t.field = e.1 := by
      intro t ht
      have hmem : t.field ∈ e.2.rules.map fun _ => e.1 := hown ▸ List.mem_map_of_mem ht
      obtain ⟨_, -, hfield⟩ := List.mem_map.1 hmem
      exact hfield.symm
    have hothersField : ∀ t ∈ others, t.field ∈ Entries.keys fields := field_mem_keys hothers
    have hhead : messagesOf (own ++ others) e.1 = messagesOf own e.1 := by
      have hnil : messagesOf others e.1 = [] :=
        messagesOf_eq_nil fun t ht (h : t.field = e.1) => he (h ▸ hothersField t ht)
      rw [messagesOf_append, hnil, List.append_nil]
    have htail : ∀ field ∈ Entries.keys fields,
        messagesOf (own ++ others) field = messagesOf others field := by
      intro field hfield
      rw [messagesOf_append, messagesOf_eq_nil, List.nil_append]
      intro t ht h
      exact he (hownField t ht ▸ h ▸ hfield)
    have hkeys := keys_foldl_addTo separator hownField errors
    rw [List.foldl_append, ih hnd ?_ hothers, hkeys]
    · show _ = errors.keys ++ (e.1 :: Entries.keys fields).filter _
      have hfilter :
          (Entries.keys fields).filter (fun field => messagesOf (own ++ others) field ≠ []) =
            (Entries.keys fields).filter fun field => messagesOf others field ≠ [] := by
        apply List.filter_congr
        intro field hfield
        rw [htail field hfield]
      rw [List.filter_cons, hhead, hfilter]
      by_cases hm : messagesOf own e.1 = [] <;> simp [hm, hfirst]
    · intro field hfield
      rw [hkeys]
      have hne : field ≠ e.1 := fun h => he (h ▸ hfield)
      split
      · exact hnew field hfield
      · simp [hne, hnew field hfield]

/-- The errors of a run, field by field, in the order of the fields. -/
theorem errorsOf_eq (separator : String) {fields : Entries FieldSpec} {tasks : List Task}
    (hnd : fields.keys.Nodup)
    (htasks : tasks.map Task.field = fields.flatMap fun e => e.2.rules.map fun _ => e.1) :
    errorsOf separator tasks = fields.keys.filterMap fun field =>
      (joined separator (messagesOf tasks field)).map (field, ·) := by
  have hkeys : (errorsOf separator tasks).keys =
      fields.keys.filter fun field => messagesOf tasks field ≠ [] := by
    rw [errorsOf_eq_foldl]
    exact keys_foldl_addTo_of_map separator hnd (by simp [Entries.keys]) htasks
  rw [Entries.eq_filterMap_keys (m := errorsOf separator tasks) (hkeys ▸ hnd.filter _), hkeys,
    List.filterMap_filter]
  apply List.filterMap_congr
  intro field _
  rw [get?_errorsOf]
  by_cases hm : messagesOf tasks field = [] <;> simp [hm, joined]

end FieldRules
