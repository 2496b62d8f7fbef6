import FlowSelect.Proofs.LookupFaults
import FlowSelect.Proofs.SettingsRoundTrip
/-! How loading settings can fail.

Settings are read from three sections of a document, `query`, `autocomplete` and `display`,
each taken as an empty table when absent. Every setting is read by a reader that refuses a value
of the wrong kind with a refused setting naming its key (`Checked`), and the checks afterwards
refuse only settings too (`validate_faults`). But a section is not checked to be a table: a key
is looked up in it the way a generic container is searched, and a text, an array or a scalar in
a section's place can make the lookup itself fail (`lookup_faults`). So reading a document fails
with a refused setting, or with a wrong shape where a section is present but is no table
(`ofDocument_faults`).

Loading a file adds the reader's faults: a text that is no TOML document is refused as
unreadable, and a decimal integer of more than `digitLimit` digits is refused as such
(`load_faults`). A section `query = 5` is therefore refused as a value that cannot be searched,
not as a refused setting (`load_scalar_section`). -/
namespace FlowSelect

/-- A fault that refuses a setting, naming its key and the reason. -/
def Fault.IsBadSetting (f : Fault) : Prop := ∃ key why, f = .badSetting key why

/-- Every fault a computation may end with satisfies `P`. -/
def FaultsIn {ε α : Type} (P : ε → Prop) (x : Except ε α) : Prop := ∀ e, x = .error e → P e

namespace FaultsIn
variable {ε α β : Type} {P Q : ε → Prop}

theorem ok (a : α) : FaultsIn P (.ok a : Except ε α) := fun _ h => nomatch h

theorem mono (hPQ : ∀ e, P e → Q e) {x : Except ε α} (h : FaultsIn P x) : FaultsIn Q x :=
  fun e he => hPQ e (h e he)

/-- A computation after another fails only as the first, or as the second on a result of the
first. -/
theorem bind {x : Except ε α} {g : α → Except ε β} (hx : FaultsIn P x)
    (hg : ∀ a, x = .ok a → FaultsIn P (g a)) : FaultsIn P (x >>= g) := by
  intro e h
  rcases Except.bind_eq_error h with hxe | ⟨a, ha, hge⟩
  · exact hx e hxe
  · exact hg a ha e hge

end FaultsIn

/-- A TOML document is a table. -/
theorem Toml.read_table {text : String} {doc : Settings.Value} (h : Toml.read text = .ok doc) :
    ∃ es, doc = .table es := by
  dsimp only [Toml.read] at h
  cases hr : Toml.readStatements ((Toml.joinLineEnds text.toList).length + 1) Toml.Sheet.empty
      (Toml.joinLineEnds text.toList) with
  | error e => simp [hr, Except.map] at h
  | ok d =>
    simp only [hr, Except.map, Except.ok.injEq] at h
    exact ⟨d.entries, h.symm⟩

namespace Settings

/-! ### Sections and their lookups -/

/-- Whether a settings value is a table. -/
def Value.isTable : Value → Bool
  | .table _ => true
  | _ => false

/-- The sections of a document that settings are read from. -/
def sectionNames : List String := ["query", "autocomplete", "display"]

/-- A document with a section that is present but is not a table. -/
def Value.Misshapen (doc : Value) : Prop :=
  ∃ name ∈ sectionNames, ∃ sec, doc.lookup name = .ok (some sec) ∧ sec.isTable = false

/-- The faults reading settings from a document may end with: a refused setting, or a wrong
shape when a section is present but is not a table. -/
def Value.ReadFault (doc : Value) (f : Fault) : Prop :=
  f.IsBadSetting ∨ ((∃ d, f = .wrongShape d) ∧ doc.Misshapen)

/-- A lookup fails only with a wrong shape, and only in a section that is not a table. -/
theorem lookup_faults (sec : Value) (key : String) :
    FaultsIn (fun f => (∃ d, f = .wrongShape d) ∧ sec.isTable = false) (sec.lookup key) := by
  intro f h
  cases sec with
  | table es => exact nomatch h
  | array _ | text _ =>
    -- searched for the key, then refused as indexable only by number
    simp only [Value.lookup] at h
    split at h
    · exact ⟨⟨_, (Except.error.inj h).symm⟩, rfl⟩
    · exact nomatch h
  | integer _ | decimal _ | bool _ | chrono _ _ | null =>
    exact ⟨⟨_, (Except.error.inj h).symm⟩, rfl⟩

/-- A section of a table document is the value there, or an empty table when absent; so a
section that is not a table is present. -/
theorem lookup_of_child {es : List (String × Value)} {name : String} {sec : Value}
    (h : (Value.table es).child name = .ok sec) (hsec : sec.isTable = false) :
    (Value.table es).lookup name = .ok (some sec) := by
  have hsec' : ((es.find? fun e => e.1 == name).map Prod.snd).getD (.table []) = sec :=
    Except.ok.inj h
  cases hfind : (es.find? fun e => e.1 == name).map Prod.snd with
  | none =>
    rw [hfind] at hsec'
    rw [← hsec'] at hsec
    exact absurd hsec (by decide)
  | some v =>
    rw [hfind] at hsec'
    rw [← hsec']
    show Except.ok ((es.find? fun e => e.1 == name).map Prod.snd) = Except.ok (some v)
    rw [hfind]

/-- A table document's sections are found without fail. -/
theorem child_table_faults (es : List (String × Value)) (name : String) {P : Fault → Prop} :
    FaultsIn P ((Value.table es).child name) :=
  FaultsIn.ok _

/-! ### Readers of settings -/

/-- A reader of settings that refuses a value only as a refused setting. -/
def Checked {α : Type} (read : Value → Except Fault α) : Prop :=
  ∀ v, FaultsIn Fault.IsBadSetting (read v)

theorem text_checked (key : String) : Checked (text key) := by
  intro v f h
  cases v <;> cases h <;> exact ⟨_, _, rfl⟩

theorem integer_checked (key : String) : Checked (integer key) := by
  intro v f h
  cases v <;> cases h <;> exact ⟨_, _, rfl⟩

theorem boolean_checked (key : String) : Checked (boolean key) := by
  intro v f h
  cases v <;> cases h <;> exact ⟨_, _, rfl⟩

theorem texts_checked (key : String) : Checked (texts key) := by
  intro v f h
  unfold texts at h
  split at h
  · -- an item that is no text is refused as the whole list
    obtain ⟨x, -, hx⟩ := mapM_eq_error h
    split at hx
    · exact nomatch hx
    · exact ⟨_, _, (Except.error.inj hx).symm⟩
  · exact ⟨_, _, (Except.error.inj h).symm⟩

theorem nameLists_checked : Checked nameLists := by
  intro v f h
  unfold nameLists at h
  split at h
  · rcases Except.bind_eq_error h with h | ⟨_, -, h⟩
    · -- an entry whose names are refused refuses the table
      obtain ⟨e, -, he⟩ := mapM_eq_error h
      rcases Except.bind_eq_error he with he | ⟨_, -, he⟩
      · exact texts_checked _ _ f he
      · exact nomatch he
    · exact nomatch h
  · exact ⟨_, _, (Except.error.inj h).symm⟩

/-- A key read from a section fails as its reader refuses the value there, or as the lookup
fails in a section that is not a table. -/
theorem readKey_faults {α : Type} {read : Value → Except Fault α} (hread : Checked read)
    (sec : Value) (key : String) (current : α) :
    FaultsIn (fun f => f.IsBadSetting ∨ ((∃ d, f = .wrongShape d) ∧ sec.isTable = false))
      (readKey sec key read current) := by
  refine FaultsIn.bind ((lookup_faults sec key).mono fun _ hf => .inr hf) fun o _ => ?_
  cases o with
  | some v => exact (hread v).mono fun _ hf => .inl hf
  | none => exact FaultsIn.ok _

/-- A key read from a section of a table document fails only as reading a document may. -/
theorem sectionRead_faults {α : Type} {es : List (String × Value)} {name : String}
    (hname : name ∈ sectionNames) {sec : Value} (hsec : (Value.table es).child name = .ok sec)
    {read : Value → Except Fault α} (hread : Checked read) (key : String) (current : α) :
    FaultsIn (Value.table es).ReadFault (readKey sec key read current) :=
  (readKey_faults hread sec key current).mono fun _ hf =>
    hf.imp_right fun ⟨hshape, hnot⟩ => ⟨hshape, name, hname, sec, lookup_of_child hsec hnot, hnot⟩

/-! ### Reading and loading -/

/-- Reading a table document into settings fails only with a refused setting, or with a wrong
shape where a section is present but is not a table. -/
theorem ofDocument_faults (es : List (String × Value)) :
    FaultsIn (Value.table es).ReadFault (ofDocument (.table es)) := by
  unfold ofDocument
  -- one step per read, in the order of the sections
  refine FaultsIn.bind (child_table_faults es "query") fun query hq => ?_
  refine FaultsIn.bind (sectionRead_faults (by decide) hq (text_checked _) _ _) fun _ _ => ?_
  refine FaultsIn.bind (sectionRead_faults (by decide) hq (text_checked _) _ _) fun _ _ => ?_
  refine FaultsIn.bind (sectionRead_faults (by decide) hq (integer_checked _) _ _) fun _ _ => ?_
  refine FaultsIn.bind (sectionRead_faults (by decide) hq (integer_checked _) _ _) fun _ _ => ?_
  refine FaultsIn.bind (child_table_faults es "autocomplete") fun auto ha => ?_
  refine FaultsIn.bind (sectionRead_faults (by decide) ha (integer_checked _) _ _) fun _ _ => ?_
  refine FaultsIn.bind (sectionRead_faults (by decide) ha (texts_checked _) _ _) fun _ _ => ?_
  refine FaultsIn.bind (sectionRead_faults (by decide) ha (texts_checked _) _ _) fun _ _ => ?_
  refine FaultsIn.bind (sectionRead_faults (by decide) ha nameLists_checked _ _) fun _ _ => ?_
  refine FaultsIn.bind (child_table_faults es "display") fun display hd => ?_
  refine FaultsIn.bind (sectionRead_faults (by decide) hd (boolean_checked _) _ _) fun _ _ => ?_
  exact FaultsIn.ok _

/-- The checks of settings refuse only settings. -/
theorem validate_faults (s : Settings) : FaultsIn Fault.IsBadSetting s.validate := by
  intro f h
  unfold validate at h
  -- every refusal names the setting it refuses
  split_ifs at h <;> cases h <;> exact ⟨_, _, rfl⟩

/-- A settings file is read as the document its text is. -/
theorem parse_eq_ok {path text : String} {doc : Value} (h : parse path text = .ok doc) :
    Toml.read text = .ok doc := by
  unfold parse at h
  split at h
  · next doc' hread => rw [hread, Except.ok.inj h]
  · exact nomatch h
  · exact nomatch h

/-- A settings file is refused as unreadable when its text is no TOML document, and with the
reader's fault on an integer of too many digits. -/
theorem parse_eq_error {path text : String} {f : Fault} (h : parse path text = .error f) :
    (Toml.read text = .error .malformed ∧ ∃ d, f = .unreadableSettings path d) ∨
      ∃ n, Toml.read text = .error (.tooManyDigits n) ∧ f = .tooManyDigits n := by
  unfold parse at h
  split at h
  · exact nomatch h
  · next hread => exact .inl ⟨hread, _, (Except.error.inj h).symm⟩
  · next n hread => exact .inr ⟨n, hread, (Except.error.inj h).symm⟩

/-- **Loading a settings file fails in four ways.** It refuses a text that is no TOML document
as unreadable, and a decimal integer of more than `digitLimit` digits as such; it refuses a
setting of the wrong kind or out of range; and it fails with a wrong shape where a section is
present but is not a table. -/
theorem load_faults {path text : String} {f : Fault} (h : load path (some text) = .error f) :
    (Toml.read text = .error .malformed ∧ ∃ d, f = .unreadableSettings path d) ∨
      (∃ n, Toml.read text = .error (.tooManyDigits n) ∧ f = .tooManyDigits n) ∨
      ∃ doc, Toml.read text = .ok doc ∧ doc.ReadFault f := by
  rcases Except.bind_eq_error h with hparse | ⟨doc, hparse, hdoc⟩
  · exact (parse_eq_error hparse).imp_right .inl
  · -- the document is read, then its settings are checked
    have hread := parse_eq_ok hparse
    obtain ⟨es, rfl⟩ := Toml.read_table hread
    refine .inr (.inr ⟨_, hread, ?_⟩)
    refine FaultsIn.bind (ofDocument_faults es) (fun s _ => ?_) f hdoc
    exact FaultsIn.bind ((validate_faults s).mono fun _ hf => .inl hf) fun _ _ => FaultsIn.ok _

/-- A limit that is a text is refused as a setting. -/
theorem load_faults_limit :
    let text := "[query]\nlimit = \"x\"\n"
    let f := Fault.badSetting "query.limit" "must be an integer"
    load "config.toml" (some text) = .error f ∧
      ((Toml.read text = .error .malformed ∧ ∃ d, f = .unreadableSettings "config.toml" d) ∨
        (∃ n, Toml.read text = .error (.tooManyDigits n) ∧ f = .tooManyDigits n) ∨
        ∃ doc, Toml.read text = .ok doc ∧ doc.ReadFault f) := by
  intro text f
  have hread : Toml.read text = .ok (.table [("query", .table [("limit", .text "x")])]) :=
    Except.eq_ok_of_toOption (by decide +kernel)
  have hL : load "config.toml" (some text) = .error f := by
    rw [load]
    show (parse "config.toml" text >>= fromDocument) = _
    rw [parse, hread]
    rfl
  exact ⟨hL, load_faults hL⟩

/-- A section that is a number: looking a key up in it fails, and the load is refused with a
wrong shape, not as a refused setting. -/
theorem load_scalar_section :
    ofDocument (.table [("query", .integer 5)]) =
        .error (.wrongShape "argument of type 'int' is not iterable") ∧
      load "config.toml" (some "query = 5\n") =
        .error (.wrongShape "argument of type 'int' is not iterable") := by
  have hdoc : ofDocument (.table [("query", .integer 5)]) =
      .error (.wrongShape "argument of type 'int' is not iterable") := rfl
  have hread : Toml.read "query = 5\n" = .ok (.table [("query", .integer 5)]) :=
    Except.eq_ok_of_toOption (by decide +kernel)
  refine ⟨hdoc, ?_⟩
  rw [load]
  show (parse "config.toml" "query = 5\n" >>= fromDocument) = _
  rw [parse, hread]
  rfl

end Settings

end FlowSelect
