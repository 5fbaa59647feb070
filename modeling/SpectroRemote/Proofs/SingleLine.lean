import SpectroRemote.Proofs.Delivery
import SpectroRemote.Proofs.Footprint
import SpectroRemote.Proofs.NamedValues
import SpectroRemote.Proofs.Readouts
import SpectroRemote.Proofs.Rejection
import SpectroRemote.Proofs.Snapshot.Decoding

/-!
# Replies on one line

Where no name that the server knows has a line feed in it, its replies have none either, with one
exception: a request can name something with a line feed that is not there, or that cannot be
written, and the reply tells the name again (`isLine_reply_iff`).
-/

namespace SpectroRemote

/-- The text has no line feed in it. -/
def IsLine (s : String) : Prop := '\n' ∉ s.toList

instance (s : String) : Decidable (IsLine s) := inferInstanceAs (Decidable (_ ∉ _))

@[simp] lemma isLine_append {s t : String} : IsLine (s ++ t) ↔ IsLine s ∧ IsLine t := by
  rw [IsLine, String.toList_append, List.mem_append, not_or, IsLine, IsLine]

lemma isLine_intercalate {separator : String} (hseparator : IsLine separator) {l : List String}
    (hl : ∀ s ∈ l, IsLine s) : IsLine (separator.intercalate l) := by
  induction l with
  | nil => exact List.not_mem_nil
  | cons s rest ih =>
    have hrest := ih fun t ht => hl t (.tail _ ht)
    cases rest with
    | nil => simpa using hl s (.head _)
    | cons t rest =>
      rw [String.intercalate_cons_cons]
      exact isLine_append.mpr ⟨isLine_append.mpr ⟨hl s (.head _), hseparator⟩, hrest⟩

lemma isLine_trimmed {s : String} (h : IsLine s) : IsLine (trimmed s) := by
  rw [IsLine, trimmed, String.toList_ofList]
  exact Request.notMem_trimBack fun hmem => h ((List.dropWhile_sublist _).subset hmem)

@[simp] lemma isLine_valueText (v : Float) : IsLine (valueText v) := by
  rw [IsLine, valueText, String.toList_ofList]
  exact Decimal.notMem_text (by decide) (by decide) (by decide) (by decide) v

/-! ### Names -/

/-- No name of a parameter, tag or tune that is configured has a line feed in it. -/
structure Station.NamesAreLines (st : Station) : Prop where
  magnetDac : IsLine st.settings.hardware.magnetDac
  ySymmetry : IsLine st.settings.hardware.ySymmetry
  ionPumpValve : IsLine st.settings.hardware.ionPumpValve
  subCupParameters : ∀ name ∈ st.settings.cups.subCupParameters, IsLine name
  tags : ∀ e ∈ st.settings.scan.detectors.entries, IsLine e.2
  tunes : ∀ name ∈ st.tunes.keys, IsLine name

/-- Neither the cup configuration nor its sub-cups have a line feed in their names. -/
def Cup.NamesAreLines (cup : Cup) : Prop := IsLine cup.name ∧ ∀ sub ∈ cup.subCups, IsLine sub.name

/-- No cup configuration of the instrument has a line feed in its names. -/
def SimulatedInstrument.NamesAreLines (i : SimulatedInstrument) : Prop :=
  ∀ cup ∈ i.cups, cup.NamesAreLines

instance (cup : Cup) : Decidable cup.NamesAreLines := inferInstanceAs (Decidable (_ ∧ _))

instance (i : SimulatedInstrument) : Decidable i.NamesAreLines :=
  inferInstanceAs (Decidable (∀ cup ∈ _, _))

lemma Station.namesAreLines_default : ({} : Station).NamesAreLines := by
  constructor <;> decide

lemma SimulatedInstrument.NamesAreLines.congr {i i' : SimulatedInstrument} (h : i.NamesAreLines)
    (hcups : i'.cups.map Cup.unswitched = i.cups.map Cup.unswitched) : i'.NamesAreLines := by
  have hunswitched (i : SimulatedInstrument) :
      i.NamesAreLines ↔ ∀ cup ∈ i.cups.map Cup.unswitched, cup.NamesAreLines := by
    rw [List.forall_mem_map]
    rfl
  rw [hunswitched] at h ⊢
  rwa [hcups]

/-! ### Snapshots -/

/-- A snapshot has no line feed in it if no tag has one. -/
lemma ScanSettings.isLine_snapshot {settings : ScanSettings}
    (htags : ∀ e ∈ settings.detectors.entries, IsLine e.2) (cup : Cup) (x : Spectrum) :
    IsLine (settings.snapshot cup x) := by
  have htag (c : Collector) : IsLine (settings.tagOf c) := by
    rw [tagOf]
    cases h : settings.detectors.get? c.identifier with
    | none => exact List.not_mem_nil
    | some tag => exact htags (c.identifier, tag) (Keyed.mem_of_find? h)
  rw [snapshot_eq]
  refine isLine_intercalate (by decide) fun field hfield => ?_
  obtain ⟨r, hr, hfield⟩ := List.mem_flatMap.mp hfield
  have hmem : r ∈ settings.tagged (cup.readings x.points) := by
    rcases List.mem_append.mp hr with hr | hr
    · exact List.mem_of_mem_filter (List.mem_reverse.mp hr)
    · exact List.mem_of_mem_filter (List.mem_of_getLast? (Option.mem_toList.mp hr))
  obtain ⟨reading, -, rfl⟩ := List.mem_map.mp hmem
  rw [entry] at hfield
  split at hfield
  · simp only [List.mem_cons, List.not_mem_nil, or_false] at hfield
    rcases hfield with rfl | rfl
    · exact htag reading.1
    · exact isLine_valueText _
  · rw [List.mem_singleton.mp hfield]
    exact isLine_valueText _

lemma isLine_lastShown {st : Station} (hst : st.NamesAreLines) (h : List Happening) :
    IsLine (lastShown st h) := by
  rw [lastShown]
  cases (h.filterMap Happening.shown).getLast? with
  | none => exact List.not_mem_nil
  | some p => exact ScanSettings.isLine_snapshot hst.tags p.2 p.1

/-! ### Rejections -/

@[simp] lemma isLine_rejectionReply : IsLine Failure.rejectionReply := by decide

namespace Request

variable {r : Request} {e : Failure}

lemma isLine_of_givenArgument (h : r.givenArgument = .error e) : IsLine e.reply := by
  rw [givenArgument] at h
  split at h
  · cases h
    exact isLine_rejectionReply
  · cases h

lemma isLine_of_readFinite {text : List Char} (h : readFinite text = .error e) :
    IsLine e.reply := by
  rw [readFinite] at h
  split at h
  · split at h
    · cases h
    · cases h
      exact isLine_rejectionReply
  · cases h
    exact isLine_rejectionReply

lemma isLine_of_number (h : r.number = .error e) : IsLine e.reply := by
  rw [number] at h
  cases hargument : r.givenArgument with
  | error e' =>
    rw [hargument] at h
    cases h
    exact isLine_of_givenArgument hargument
  | ok argument =>
    rw [hargument] at h
    exact isLine_of_readFinite h

/-- A name and a value are not read, which is answered on one line, or the name is what stands
before the first comma. -/
lemma nameAndValue_cases (r : Request) :
    (∃ e, r.nameAndValue = .error e ∧ IsLine e.reply)
      ∨ ∃ v, r.nameAndValue = .ok
          (SpectroRemote.trimmed (String.ofList (Text.cut ',' r.argument.toList).1), v) := by
  rw [nameAndValue_eq, SpectroRemote.trimmed, String.toList_ofList]
  cases Text.cut ',' r.argument.toList with
  | mk first rest =>
    cases rest with
    | none => exact .inl ⟨_, rfl, isLine_rejectionReply⟩
    | some rest =>
      dsimp only
      split
      · exact .inl ⟨_, rfl, isLine_rejectionReply⟩
      · cases hread : readFinite (Text.cut ',' rest).1 with
        | error e => exact .inl ⟨e, rfl, isLine_of_readFinite hread⟩
        | ok v => exact .inr ⟨v, rfl⟩

lemma isLine_of_nameAndValue (h : r.nameAndValue = .error e) : IsLine e.reply := by
  rcases r.nameAndValue_cases with ⟨e', herror, hline⟩ | ⟨v, hok⟩
  · rw [herror] at h
    exact Except.error.inj h ▸ hline
  · rw [hok] at h
    cases h

/-- A request for a single write that cannot be read is answered on one line. -/
lemma isLine_of_write? {names : HardwareSettings} (h : r.write? names = some (.error e)) :
    IsLine e.reply := by
  have mapped {α β : Type} {value : Except Failure α} {f : α → β}
      (hmap : some (value.map f) = some (.error e))
      (hvalue : ∀ e, value = .error e → IsLine e.reply) : IsLine e.reply := by
    cases value with
    | error e' =>
      cases hmap
      exact hvalue _ rfl
    | ok a => cases hmap
  obtain ⟨verb, argument⟩ := r
  cases verb <;> simp only [write?, reduceCtorEq] at h
  case setDeflection => exact mapped h fun _ => isLine_of_nameAndValue
  case setParameter => exact isLine_of_nameAndValue (Option.some.inj h)
  all_goals first | exact mapped h fun _ => isLine_of_number | cases h

/-! ### Names in requests -/

lemma isLine_argument {line : String} (h : parse line = .ok r)
    (hline : IsLine (SpectroRemote.trimmed line)) : IsLine r.argument := by
  rcases spells_of_parse h with ⟨-, hempty⟩ | ⟨text, htext, hargument⟩
  · rw [hempty]
    exact List.not_mem_nil
  · rw [htext, Request.line, isLine_append] at hline
    rw [hargument]
    exact isLine_trimmed hline.2

lemma isLine_of_nameAndValue_ok {p : String × Float} (h : r.nameAndValue = .ok p)
    (hargument : IsLine r.argument) : IsLine p.1 := by
  rcases r.nameAndValue_cases with ⟨e, herror, -⟩ | ⟨v, hok⟩
  · rw [herror] at h
    cases h
  · rw [hok] at h
    obtain rfl := Except.ok.inj h
    apply isLine_trimmed
    rw [IsLine, String.toList_ofList, Text.cut_fst]
    exact fun hmem => hargument ((List.takeWhile_sublist _).subset hmem)

/-- A request whose argument has no line feed in it writes no parameter that has. -/
lemma isLine_of_write?_ok {st : Station} (hst : st.NamesAreLines) {w : String × Float}
    (h : r.write? st.settings.hardware = some (.ok w)) (hargument : IsLine r.argument) :
    IsLine w.1 := by
  have mapped {α β : Type} {value : Except Failure α} {f : α → β} {b : β}
      (hmap : some (value.map f) = some (.ok b)) : ∃ a, value = .ok a ∧ f a = b := by
    cases value with
    | error e => cases hmap
    | ok a => exact ⟨a, rfl, Except.ok.inj (Option.some.inj hmap)⟩
  obtain ⟨verb, argument⟩ := r
  cases verb <;> simp only [write?, reduceCtorEq] at h
  case «open» | close =>
    cases h
    exact hst.ionPumpValve
  case setDeflection =>
    obtain ⟨p, hp, rfl⟩ := mapped h
    have hname := isLine_trimmed (isLine_of_nameAndValue_ok hp hargument)
    exact isLine_append.mpr ⟨isLine_append.mpr ⟨by decide, hname⟩, by decide⟩
  case setParameter => exact isLine_of_nameAndValue_ok (Option.some.inj h) hargument
  case setYSymmetry =>
    obtain ⟨v, -, rfl⟩ := mapped h
    exact hst.ySymmetry
  all_goals
    obtain ⟨v, -, rfl⟩ := mapped h
    dsimp only
    decide

end Request

/-! ### Operations -/

@[simp] lemma isLine_writeRefused {name : String} {v : Float} :
    IsLine (Failure.writeRefused name v).reply ↔ IsLine name := by
  have hstart : IsLine "Error: could not set " := by decide
  have hto : IsLine " to " := by decide
  change IsLine ("Error: could not set " ++ name ++ " to " ++ valueText v) ↔ _
  rw [isLine_append, isLine_append, isLine_append]
  exact ⟨fun h => h.1.1.2, fun h => ⟨⟨⟨hstart, h⟩, hto⟩, isLine_valueText v⟩⟩

namespace Server

@[simp] lemma isLine_doneReply : IsLine doneReply := by decide

lemma TellsWrite.isLine {name reply : String} (h : TellsWrite name reply) (hname : IsLine name) :
    IsLine reply := by
  rcases h with rfl | ⟨v, rfl⟩
  · exact isLine_doneReply
  · exact isLine_writeRefused.mpr hname

section Operations

variable {σ : Type}

lemma isLine_of_cases {s : Server σ} {name : String} {x : String × Server σ}
    (h : x = (Failure.rejectionReply, s) ∨ TellsWrite name x.1) (hname : IsLine name) :
    IsLine x.1 := by
  rcases h with rfl | h
  · exact isLine_rejectionReply
  · exact h.isLine hname

lemma isLine_withValue {α : Type} {s : Server σ} {value : Except Failure α} {next : α → Outcome σ}
    (herror : ∀ e, value = .error e → IsLine e.reply)
    (hok : ∀ a, value = .ok a → IsLine (replyText (next a))) :
    IsLine (replyText (s.withValue value next)) := by
  cases value with
  | error e => exact herror e rfl
  | ok a => exact hok a rfl

variable [Instrument σ]

lemma isLine_of_read_error {s : Server σ} {name : String} {e : Failure}
    (h : s.read name = .error e) : IsLine e.reply := by
  rw [reply_of_read_error h]
  exact isLine_rejectionReply

lemma isLine_scaledReadout (s : Server σ) (name : String) (scale : Float) :
    IsLine (s.scaledReadout name scale) := by
  rw [scaledReadout]
  split
  · exact isLine_valueText _
  · next hread => exact isLine_of_read_error hread

end Operations

/-! ### Operations on the simulated instrument -/

section Simulated

variable {st : Station} {s : Server SimulatedInstrument}

lemma isLine_writeAndReply_iff (s : Server SimulatedInstrument) (name : String) (v : Float) :
    IsLine (s.writeAndReply name v).1 ↔
      ¬ (¬ IsLine name ∧ s.instrument.refuses (s.instrument.writes.size + 1) name = true) := by
  rw [writeAndReply, write_eq]
  cases s.instrument.refuses (s.instrument.writes.size + 1) name with
  | false =>
    exact iff_of_true isLine_doneReply fun h => absurd h.2 Bool.false_ne_true
  | true =>
    rw [if_pos rfl]
    dsimp only
    rw [isLine_writeRefused, and_iff_left rfl, not_not]

lemma isLine_subCupReadings (hst : st.NamesAreLines) (s : Server SimulatedInstrument) :
    IsLine (s.subCupReadings st) := by
  refine isLine_intercalate (by decide) fun field hfield => ?_
  obtain ⟨name, hname, hfield⟩ := List.mem_filterMap.mp hfield
  have hcomma : IsLine "," := by decide
  split at hfield
  · rw [← Option.some.inj hfield]
    exact isLine_append.mpr
      ⟨isLine_append.mpr ⟨hst.subCupParameters name hname, hcomma⟩, isLine_valueText _⟩
  · cases hfield

/-- A name with a line feed is not that of a tune, and is told again. -/
lemma isLine_applyTune_iff (hst : st.NamesAreLines) (s : Server SimulatedInstrument)
    (name : String) : IsLine (replyText (done (s.applyTune st name))) ↔ IsLine name := by
  unfold applyTune
  dsimp only
  cases hname : st.tunes.get? name with
  | none =>
    change IsLine ("Error: " ++ ("could not set tuning settings " ++ name)) ↔ _
    rw [isLine_append, isLine_append]
    exact ⟨fun h => h.2.2, fun h => ⟨by decide, by decide, h⟩⟩
  | some tune =>
    refine iff_of_true isLine_doneReply (hst.tunes name ?_)
    exact List.mem_map_of_mem (Keyed.mem_of_find? hname)

variable (hcups : s.instrument.NamesAreLines)
include hcups

/-- A cup configuration that is found has the name that was asked for. -/
lemma cupNamed_cases (name : String) :
    (∃ cup, cup.NamesAreLines ∧ cup.name = name ∧ s.cupNamed name = (.ok cup, s))
      ∨ ∃ s', s.cupNamed name = (.error (.lookup (.unknownCup name)), s') := by
  have hall : s.allCups = .ok s.instrument.cups := rfl
  rw [cupNamed, hall]
  dsimp only
  cases hfind : s.instrument.cups.find? fun c => c.name = name with
  | none => exact .inr ⟨_, rfl⟩
  | some cup =>
    have hname := List.find?_some hfind
    exact .inl ⟨cup, hcups cup (List.mem_of_find?_eq_some hfind), by simpa using hname, rfl⟩

/-- A name with a line feed is not that of a cup configuration, and is told again. -/
lemma isLine_subCupNames_iff (name : String) :
    IsLine (replyText ((s.subCupNames name).1.map ("\r".intercalate ·), (s.subCupNames name).2))
      ↔ IsLine name := by
  rw [subCupNames]
  rcases cupNamed_cases hcups name with ⟨cup, hcup, rfl, hnamed⟩ | ⟨s', hnamed⟩
  · rw [hnamed]
    refine iff_of_true (isLine_intercalate (by decide) ?_) hcup.1
    exact List.forall_mem_map.mpr hcup.2
  · rw [hnamed]
    change IsLine ("Error: " ++ ("could not find cup configuration " ++ name)) ↔ _
    rw [isLine_append, isLine_append]
    exact ⟨fun h => h.2.2, fun h => ⟨by decide, by decide, h⟩⟩

lemma isLine_of_choose {cupName name : String} (h : (s.choose cupName name).1 = .ok ()) :
    IsLine name := by
  rw [choose] at h
  rcases cupNamed_cases hcups cupName with ⟨cup, hcup, -, hnamed⟩ | ⟨s', hnamed⟩
  · rw [hnamed] at h
    dsimp only at h
    cases hsub : cup.subCupNamed? name with
    | none =>
      rw [hsub] at h
      cases h
    | some sub =>
      have hname : sub.name = name := by simpa using List.find?_some hsub
      exact hname ▸ hcup.2 sub (List.mem_of_find?_eq_some hsub)
  · rw [hnamed] at h
    cases h

/-- A name with a line feed is not that of a sub-cup, and is told again. -/
lemma isLine_setSubCup_iff (name : String) : IsLine (s.setSubCup st name).1 ↔ IsLine name := by
  rw [setSubCup]
  split
  · next hchosen =>
    exact iff_of_true isLine_doneReply (isLine_of_choose hcups (congrArg Prod.fst hchosen))
  · rw [isLine_append]
    exact and_iff_right (by decide)

lemma activePair_cases :
    (∃ names, s.activePair = .ok names ∧ IsLine names.1 ∧ IsLine names.2)
      ∨ ∃ e, s.activePair = .error e ∧ IsLine e.reply := by
  have htold : Instrument.activePair s.instrument = s.instrument.activePair := rfl
  rw [activePair, htold, SimulatedInstrument.activePair]
  cases hactive : s.instrument.activeCup? with
  | none => exact .inr ⟨_, rfl, by decide⟩
  | some cup =>
    have hcup := hcups cup (List.mem_of_find?_eq_some hactive)
    refine .inl ⟨_, rfl, hcup.1, ?_⟩
    cases hsub : cup.subCups.find? fun sub => sub.identifier = s.instrument.active.2 with
    | none => exact List.not_mem_nil
    | some sub => exact hcup.2 sub (List.mem_of_find?_eq_some hsub)

end Simulated

end Server

/-! ### Requests -/

/-- The verbs of which the argument is the name of something that the server looks for. -/
def Verb.lookups : List Verb :=
  [.setTuningSettings, .getSubCupConfigurationList, .setSubCupConfiguration]

lemma Request.write?_of_mem_lookups (names : HardwareSettings) {r : Request}
    (h : r.verb ∈ Verb.lookups) : r.write? names = none := by
  have hdisjoint : ∀ verb ∈ Verb.lookups, verb ∉ Verb.singleWrites := by decide
  exact (write?_eq_none_iff names r).mpr (hdisjoint r.verb h)

/-- The reply tells a name again that has a line feed in it: of something that is looked for, or of
a parameter that cannot be written. -/
def Request.EchoesLineFeed (st : Station) (s : Server SimulatedInstrument) (r : Request) : Prop :=
  r.verb ∈ Verb.lookups ∧ ¬ IsLine r.argument
    ∨ ∃ w, r.write? st.settings.hardware = some (.ok w) ∧ ¬ IsLine w.1
      ∧ s.instrument.refuses (s.instrument.writes.size + 1) w.1 = true

namespace Server

variable {st : Station} {s : Server SimulatedInstrument}

lemma not_echoesLineFeed_of_write? {r : Request} {w : Except Failure (String × Float)}
    (hw : r.write? st.settings.hardware = some w) :
    ¬ r.EchoesLineFeed st s ↔ ∀ p, w = .ok p → ¬ (¬ IsLine p.1
      ∧ s.instrument.refuses (s.instrument.writes.size + 1) p.1 = true) := by
  have hlookups : r.verb ∉ Verb.lookups := by
    intro hverb
    rw [Request.write?_of_mem_lookups _ hverb] at hw
    cases hw
  rw [Request.EchoesLineFeed, hw]
  constructor
  · rintro h p rfl hp
    exact h (.inr ⟨p, rfl, hp⟩)
  · rintro h (⟨hverb, -⟩ | ⟨p, hp, hrefused⟩)
    · exact hlookups hverb
    · exact h p (Option.some.inj hp) hrefused

lemma not_echoesLineFeed_of_lookup {verb : Verb} (hverb : verb ∈ Verb.lookups)
    (argument : String) :
    ¬ Request.EchoesLineFeed st s ⟨verb, argument⟩ ↔ IsLine argument := by
  rw [Request.EchoesLineFeed, Request.write?_of_mem_lookups _ hverb]
  simp [hverb]

/-- A request about something that is looked for by name is answered on one line exactly if its
argument is on one. -/
lemma isLine_lookup_iff {verb : Verb} (hverb : verb ∈ Verb.lookups) (argument : String)
    {next : String → Outcome SimulatedInstrument}
    (hnext : ∀ name, IsLine (replyText (next name)) ↔ IsLine name) :
    IsLine (replyText (s.withValue (Request.givenArgument ⟨verb, argument⟩) next))
      ↔ ¬ Request.EchoesLineFeed st s ⟨verb, argument⟩ := by
  rw [not_echoesLineFeed_of_lookup hverb]
  by_cases hempty : argument = ""
  · subst hempty
    exact iff_of_true isLine_rejectionReply List.not_mem_nil
  · rw [Request.givenArgument_of_ne hempty]
    exact hnext argument

/-- A request for a single write is answered on one line exactly if its parameter is on one or can
be written. -/
lemma isLine_write_iff {r : Request} {w : Except Failure (String × Float)}
    (hw : r.write? st.settings.hardware = some w) :
    IsLine (replyText (s.serveRequest st r)) ↔ ¬ r.EchoesLineFeed st s := by
  rw [serveRequest_of_write? hw, not_echoesLineFeed_of_write? hw]
  cases w with
  | error e => exact iff_of_true (Request.isLine_of_write? hw) nofun
  | ok w =>
    refine (isLine_writeAndReply_iff s w.1 w.2).trans ⟨?_, fun h => h w rfl⟩
    rintro h p hp
    obtain rfl := Except.ok.inj hp
    exact h

/-- Every other request is answered on one line. -/
lemma isLine_serveRequest (hst : st.NamesAreLines) (hsnapshot : IsLine s.snapshot)
    (hcups : s.instrument.NamesAreLines) {r : Request} (hlookups : r.verb ∉ Verb.lookups)
    (hwrites : r.verb ∉ Verb.singleWrites) : IsLine (replyText (s.serveRequest st r)) := by
  obtain ⟨verb, argument⟩ := r
  change verb ∉ _ at hlookups hwrites
  cases verb
  case getTuningSettingsList => exact isLine_intercalate (by decide) hst.tunes
  case getData => exact hsnapshot
  case setIntegrationTime =>
    exact isLine_withValue (fun _ => Request.isLine_of_number)
      fun v _ => (tellsWrite_changeIntegrationTime st s v).isLine (by decide)
  case blankBeam =>
    simp only [serveRequest]
    split
    · exact isLine_doneReply
    · exact isLine_withValue (fun _ => Request.isLine_of_givenArgument)
        fun a _ => isLine_of_cases (switchBlanking_cases st s _) hst.ySymmetry
  case getCupConfigurationList =>
    refine isLine_intercalate (by decide) (List.forall_mem_map.mpr fun cup hcup => ?_)
    exact (hcups cup hcup).1
  case getActiveCupConfiguration =>
    simp only [serveRequest]
    rcases activePair_cases hcups with ⟨names, hnames, hline, -⟩ | ⟨e, he, hline⟩
    · rw [hnames]
      exact hline
    · rw [he]
      exact hline
  case getActiveSubCupConfiguration =>
    simp only [serveRequest]
    rcases activePair_cases hcups with ⟨names, hnames, -, hline⟩ | ⟨e, he, hline⟩
    · rw [hnames]
      exact hline
    · rw [he]
      exact hline
  case getSubCupParameters => exact isLine_subCupReadings hst s
  case activateIonCounter | deactivateIonCounter =>
    change IsLine (s.switchIonCounters _).1
    rw [switchIonCounters_reply]
    exact isLine_doneReply
  case getValveState =>
    simp only [serveRequest, valveState]
    cases hread : s.read st.settings.hardware.ionPumpValve with
    | error e => exact isLine_of_read_error hread
    | ok v =>
      change IsLine (if v == 1 then "True" else "False")
      split <;> decide
  case setMagnetDAC =>
    exact isLine_withValue (fun _ => Request.isLine_of_number)
      fun v _ => isLine_of_cases (setMagnet_cases st s v) hst.magnetDac
  case getDeflection =>
    exact isLine_withValue (fun _ => Request.isLine_of_givenArgument)
      fun detector _ => isLine_scaledReadout s _ 1
  case getParameter =>
    exact isLine_withValue (fun _ => Request.isLine_of_givenArgument)
      fun name _ => isLine_scaledReadout s name 1
  all_goals first
    | exact absurd (by decide) hwrites
    | exact absurd (by decide) hlookups
    | exact isLine_scaledReadout s _ _

/-- A request is answered on one line exactly if the reply tells no name with a line feed again. -/
lemma isLine_serveRequest_iff (hst : st.NamesAreLines) (hsnapshot : IsLine s.snapshot)
    (hcups : s.instrument.NamesAreLines) (r : Request) :
    IsLine (replyText (s.serveRequest st r)) ↔ ¬ r.EchoesLineFeed st s := by
  cases hw : r.write? st.settings.hardware with
  | some w => exact isLine_write_iff hw
  | none =>
    have hwrites := (Request.write?_eq_none_iff _ r).mp hw
    by_cases hlookups : r.verb ∈ Verb.lookups
    · obtain ⟨verb, argument⟩ := r
      cases verb <;> simp only [Verb.lookups, List.mem_cons, List.not_mem_nil, reduceCtorEq,
        or_false, or_self] at hlookups
      · exact isLine_lookup_iff (by decide) argument fun name => isLine_applyTune_iff hst s name
      · exact isLine_lookup_iff (by decide) argument fun name => isLine_subCupNames_iff hcups name
      · exact isLine_lookup_iff (by decide) argument fun name => isLine_setSubCup_iff hcups name
    · refine iff_of_true (isLine_serveRequest hst hsnapshot hcups hlookups hwrites) ?_
      rintro (⟨hverb, -⟩ | ⟨w, hwrite, -⟩)
      · exact hlookups hverb
      · rw [hw] at hwrite
        cases hwrite

/-- A line is answered on one line, unless it is a request and the reply tells a name again that has
a line feed in it. -/
lemma isLine_serveLine_iff (hst : st.NamesAreLines) (hsnapshot : IsLine s.snapshot)
    (hcups : s.instrument.NamesAreLines) (line : String) :
    IsLine (s.serveLine st line).1 ↔
      ∀ r, Request.parse line = .ok r → ¬ r.EchoesLineFeed st s := by
  cases hparse : Request.parse line with
  | error e =>
    rw [serveLine, hparse, Request.eq_of_parse_error hparse]
    refine iff_of_true isLine_rejectionReply ?_
    intro r hr
    cases hr
  | ok r =>
    rw [serveLine_reply hparse]
    refine (isLine_serveRequest_iff hst hsnapshot hcups r).trans ?_
    constructor
    · rintro h r' hr
      exact Except.ok.inj hr ▸ h
    · exact fun h => h r rfl

lemma not_echoesLineFeed_of_isLine (hst : st.NamesAreLines) {r : Request}
    (h : IsLine r.argument) : ¬ r.EchoesLineFeed st s := by
  rintro (⟨-, hargument⟩ | ⟨w, hw, hname, -⟩)
  · exact hargument h
  · exact hname (Request.isLine_of_write?_ok hst hw h)

/-! ### Whole runs -/

lemma namesAreLines_act (hcups : s.instrument.NamesAreLines) {a : Action SimulatedInstrument}
    (hbecome : ∀ f, a = .become f → ∀ i, i.NamesAreLines → (f i).NamesAreLines) :
    (s.act st a).instrument.NamesAreLines := by
  rcases act_cases st s a with ⟨line, rfl⟩ | rfl | ⟨f, rfl⟩ | hbeside
  · rw [act]
    cases hparse : Request.parse line with
    | error e => rwa [serveLine_of_parse_error hparse]
    | ok r =>
      obtain ⟨attempts, hfootprint⟩ := serveRequest_footprint st s r
      rw [serveLine_of_parse hparse]
      exact hcups.congr hfootprint.cups
  · obtain ⟨blank, journal, hready⟩ := makeReady_eq st s
    rw [act, hready]
    exact hcups
  · exact hbecome f rfl _ hcups
  · rwa [hbeside.instrument]

/-- The names remain without line feeds whatever is done, if they do where the instrument becomes
another. -/
lemma namesAreLines_acts (hcups : s.instrument.NamesAreLines)
    {actions : List (Action SimulatedInstrument)}
    (hactions : ∀ f, .become f ∈ actions → ∀ i, i.NamesAreLines → (f i).NamesAreLines) :
    (actions.foldl (act st) s).instrument.NamesAreLines := by
  induction actions generalizing s with
  | nil => exact hcups
  | cons a rest ih =>
    refine ih (namesAreLines_act hcups ?_) fun f hf => hactions f (.tail _ hf)
    rintro f rfl
    exact hactions f (.head _)

lemma isLine_snapshot_acts (hst : st.NamesAreLines) (i : SimulatedInstrument)
    (actions : List (Action SimulatedInstrument)) :
    IsLine (actions.foldl (act st) { instrument := i }).snapshot := by
  rw [snapshot_acts]
  exact isLine_lastShown hst _

/-- Where no name that the server knows has a line feed in it, whatever is done with a new server, a
line is answered on one line, unless it asks for something by a name with a line feed, or asks to
write a parameter of such a name that is refused: then the reply tells the name. In particular a
line with line feeds at its ends only is answered on one line. -/
theorem isLine_reply_iff (hst : st.NamesAreLines) {i : SimulatedInstrument} (hi : i.NamesAreLines)
    {actions : List (Action SimulatedInstrument)}
    (hactions : ∀ f, .become f ∈ actions → ∀ i, i.NamesAreLines → (f i).NamesAreLines)
    (line : String) :
    let now := actions.foldl (act st) { instrument := i }
    (IsLine (now.serveLine st line).1 ↔
        ∀ r, Request.parse line = .ok r → ¬ r.EchoesLineFeed st now)
      ∧ (IsLine (trimmed line) → IsLine (now.serveLine st line).1) := by
  intro now
  have hiff := isLine_serveLine_iff hst (isLine_snapshot_acts hst i actions)
    (namesAreLines_acts hi hactions) line
  refine ⟨hiff, fun hline => hiff.mpr fun r hparse => ?_⟩
  exact not_echoesLineFeed_of_isLine hst (Request.isLine_argument hparse hline)

/-- The instrument begins to refuse a parameter with a line feed in its name, which a request then
asks to write. -/
theorem isLine_reply_iff_refused :
    let st : Station := {}
    let actions : List (Action SimulatedInstrument) :=
      [.makeReady, .become fun i => { i with refusedNames := ["Trap\nVoltage"] }]
    let now := actions.foldl (act st) { instrument := SimulatedInstrument.multicollector }
    let line := "SetParameter Trap\nVoltage,1"
    ¬ IsLine (now.serveLine st line).1
      ∧ ∃ r, Request.parse line = .ok r ∧ r.EchoesLineFeed st now := by
  intro st actions now line
  have hreply : ¬ IsLine (now.serveLine st line).1 := by decide +kernel
  have hactions : ∀ f, .become f ∈ actions → ∀ i, i.NamesAreLines → (f i).NamesAreLines := by
    intro f hf i hi
    simp only [actions, List.mem_cons, reduceCtorEq, Action.become.injEq, List.not_mem_nil,
      or_false, false_or] at hf
    subst hf
    exact hi
  obtain ⟨hiff, -⟩ :=
    isLine_reply_iff Station.namesAreLines_default
      (show SimulatedInstrument.multicollector.NamesAreLines by decide) hactions line
  refine ⟨hreply, ?_⟩
  by_contra hnone
  exact hreply (hiff.mpr fun r hparse hechoes => hnone ⟨r, hparse, hechoes⟩)

/-- The sub-cups are asked for of a cup configuration that is not there. The name has a line feed in
it, and so does the reply. -/
theorem serveLine_tells_lineFeed :
    let st : Station := {}
    let i := SimulatedInstrument.multicollector
    let reply := (serveLine st { instrument := i } "GetSubCupConfigurationList a\nb").1
    st.NamesAreLines ∧ i.NamesAreLines
      ∧ reply = "Error: could not find cup configuration a\nb" ∧ ¬ IsLine reply :=
  ⟨Station.namesAreLines_default, by decide, by decide +kernel⟩

end Server

end SpectroRemote
