/-
This file holds that settings which are written are read back as they were.
Writing needs that a document can hold the numbers, which may be one bit longer
than that; reading makes sure of it, whatever notation the numbers have, in
whatever order and with whatever else the document says. A standard value never
takes the place of one that was written, because all four keys always are.
-/
import LiveFleet.Run.SettingsText
import LiveFleet.Proofs.Toml.Lines
import LiveFleet.Proofs.Toml.Range

namespace LiveFleet

namespace Settings

/-- A document can hold all numbers of the settings, which are at most `2 ^ 63 - 1`. -/
structure FitDocument (settings : Settings) : Prop where
  tickLength : settings.tickLength ≤ Toml.largestInteger
  seed : settings.seed ≤ Toml.largestInteger
  timeOut : settings.timeOut ≤ Toml.largestInteger

variable {settings : Settings}

/-! ### Writing -/

/-- The lines that are written. -/
def lines (settings : Settings) : List Toml.Line :=
  [⟨"tick_length_ms", .count settings.tickLength⟩,
    ⟨"initial_mode", .name (paceName settings.initialPace)⟩,
    ⟨"seed", .count settings.seed⟩,
    ⟨"time_out_ms", .count settings.timeOut⟩]

theorem text_of_fitDocument (fit : settings.FitDocument) :
    ∃ document, settings.text = .ok document ∧
      document.toList = settings.lines.flatMap Toml.Line.chars := by
  refine ⟨_, if_pos (by simp [fit.tickLength, fit.seed, fit.timeOut]), ?_⟩
  simp [lines, Toml.Line.chars, Toml.Plain.chars, Toml.numeral]

theorem text_of_not_fitDocument (unfit : ¬ settings.FitDocument) :
    settings.text = .error .unwritable := by
  refine if_neg fun held => unfit ?_
  simp only [Bool.and_eq_true, decide_eq_true_eq] at held
  exact ⟨held.1.1, held.1.2, held.2⟩

/-! ### Reading what was written -/

theorem isWritable_paceName (pace : Pace) : (Toml.Plain.name (paceName pace)).IsWritable := by
  cases pace <;> simp [Toml.Plain.IsWritable, paceName, Toml.isPrintable]

theorem isWritable_lines (fit : settings.FitDocument) :
    ∀ line ∈ settings.lines, line.IsWritable := by
  have named (key : String) (plain : Toml.Plain) (key_named : key ≠ "")
      (bare : key.toList.all Toml.isBareKey) (writable : plain.IsWritable) :
      Toml.Line.IsWritable ⟨key, plain⟩ :=
    ⟨key_named, List.all_eq_true.mp bare, writable⟩
  simp only [lines, List.forall_mem_cons, List.not_mem_nil, false_implies, implies_true, and_true]
  exact ⟨named _ _ (by decide) (by decide) fit.tickLength,
    named _ _ (by decide) (by decide) (isWritable_paceName _),
    named _ _ (by decide) (by decide) fit.seed, named _ _ (by decide) (by decide) fit.timeOut⟩

theorem ofEntries?_lines (settings : Settings) :
    ofEntries? (settings.lines.map Toml.Line.entry) = some settings := by
  simp [ofEntries?, field?, lines, Toml.Line.entry, Toml.Plain.value, List.lookup, count?, pace?,
    paceOfName?_paceName]

theorem ofText_lines {document : String} (fit : settings.FitDocument)
    (valid : settings.validate = .ok ())
    (text : document.toList = settings.lines.flatMap Toml.Line.chars) :
    ofText document = .ok settings := by
  have distinct : (settings.lines.map Toml.Line.key).Nodup := by
    simp [lines]
  have read := Toml.read?_lines text (isWritable_lines fit) distinct
  simp only [ofText, read, Option.bind_some, ofEntries?_lines, valid]
  rfl

theorem exists_text_ofText (valid : settings.validate = .ok ()) (fit : settings.FitDocument) :
    ∃ document, settings.text = .ok document ∧ ofText document = .ok settings := by
  obtain ⟨document, written, text⟩ := text_of_fitDocument fit
  exact ⟨document, written, ofText_lines fit valid text⟩

/-! ### Writing what was read -/

/-- A count that a document holds is no larger than a document can hold. -/
theorem field?_le {entries : Toml.Entries} {key : String} {usual count : Nat}
    (held : entries.AreHeld) (small : usual ≤ Toml.largestInteger)
    (said : field? entries key count? usual = some count) : count ≤ Toml.largestInteger := by
  unfold field? at said
  split at said
  · cases said
    exact small
  next value found =>
    unfold count? at said
    split at said
    · cases said
      obtain ⟨_, _, same, -⟩ := List.lookup_eq_some_iff.mp found
      have inside : Toml.Value.IsHeld (.integer count) :=
        held (key, .integer count) (by simp [same])
      exact Int.ofNat_le.mp inside.2
    · contradiction

theorem ofEntries?_of_ofText {document : String} (read : ofText document = .ok settings) :
    ∃ entries, Toml.read? document = some entries ∧ ofEntries? entries = some settings := by
  unfold ofText at read
  split at read
  · contradiction
  next described found =>
    have same : described = settings := by
      cases valid : described.validate with
      | error problem => simp [valid, bind, Except.bind] at read
      | ok => simpa [valid, bind, Except.bind, pure, Except.pure] using read
    rw [← same]
    exact Option.bind_eq_some_iff.mp found

theorem fitDocument_of_ofText {document : String} (read : ofText document = .ok settings) :
    settings.FitDocument := by
  obtain ⟨entries, found, described⟩ := ofEntries?_of_ofText read
  have held := Toml.areHeld_of_read? found
  simp only [ofEntries?, Option.bind_eq_bind, Option.bind_eq_some_iff] at described
  obtain ⟨_, tickLength, _, -, _, seed, _, timeOut, same⟩ := described
  cases same
  exact
    { tickLength := field?_le held (by decide) tickLength
      seed := field?_le held (by decide) seed
      timeOut := field?_le held (by decide) timeOut }

/-- Valid settings are written exactly if a document can hold their numbers, and then they are read
back as they were. Whatever document settings are read from, they are valid, can be written, and are
read back as they were. -/
theorem writing_and_reading_agree :
    (∀ settings : Settings, settings.validate = .ok () →
      (settings.FitDocument →
        ∃ document, settings.text = .ok document ∧ ofText document = .ok settings) ∧
      (¬ settings.FitDocument → settings.text = .error .unwritable)) ∧
    ∀ (document : String) (settings : Settings), ofText document = .ok settings →
      settings.validate = .ok () ∧
        ∃ written, settings.text = .ok written ∧ ofText written = .ok settings := by
  refine ⟨fun settings valid => ⟨exists_text_ofText valid, text_of_not_fitDocument⟩,
    fun document settings read => ?_⟩
  have valid := ofText_valid read
  exact ⟨valid, exists_text_ofText valid (fitDocument_of_ofText read)⟩

/-- A document with a comment, a number in another base, keys in an order of its own and more than
is asked for: what it says is written and read back. A seed of 64 bits cannot be written. -/
theorem writing_and_reading_agree_tersely :
    (ofText "# by night\ntime_out_ms = 1_000\n\"seed\" = 0x10\n[lamps]\nlit = true\n" =
        .ok { standard with seed := 16, timeOut := 1000 } ∧
      ∃ written, text { standard with seed := 16, timeOut := 1000 } = .ok written ∧
        ofText written = .ok { standard with seed := 16, timeOut := 1000 }) ∧
    (∃ written, text { standard with initialPace := .realTime } = .ok written ∧
      ofText written = .ok { standard with initialPace := .realTime }) ∧
    text { standard with seed := 9223372036854775808 } = .error .unwritable := by
  have terse : ofText "# by night\ntime_out_ms = 1_000\n\"seed\" = 0x10\n[lamps]\nlit = true\n" =
      .ok { standard with seed := 16, timeOut := 1000 } := by decide
  refine ⟨⟨terse, (writing_and_reading_agree.2 _ _ terse).2⟩, ?_, ?_⟩
  · exact (writing_and_reading_agree.1 _ (by decide)).1 ⟨by decide, by decide, by decide⟩
  · exact (writing_and_reading_agree.1 _ (by decide)).2 fun fit => absurd fit.seed (by decide)

end Settings

end LiveFleet
