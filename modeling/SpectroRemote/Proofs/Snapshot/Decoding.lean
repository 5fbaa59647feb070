import Mathlib
import SpectroRemote.Proofs.Decimal.Spelling
import SpectroRemote.Proofs.Lists
import SpectroRemote.Proofs.Snapshot.Layout
import SpectroRemote.Proofs.Tables
import SpectroRemote.Settings.Validation

/-!
# Reading snapshots

A snapshot with tags is cut at its commas, and its fields are read in pairs. What it should tell is
said without regard to how it is made (`ScanSettings.report`). It tells this unless the tag of the
ion counter is empty and so cannot be told from that of a collector without a tag, and it is read
back if no tag in it holds a comma (`snapshot_tells_report`).
-/

namespace SpectroRemote

/-! ### Fields in pairs -/

namespace Snapshot

/-- The elements of a list in pairs, if their number is even. -/
def pairs {α : Type} : List α → Option (List (α × α))
  | [] => some []
  | [_] => none
  | a :: b :: rest => (pairs rest).map ((a, b) :: ·)

/-- The fields of a snapshot in pairs. -/
def read? (text : String) : Option (List (String × String)) :=
  if text = "" then some [] else pairs ((text.toList.splitOn ',').map String.ofList)

/-- The elements of pairs, one after the other. -/
def unpaired {α : Type} (ps : List (α × α)) : List α := ps.flatMap fun p => [p.1, p.2]

lemma unpaired_cons {α : Type} (p : α × α) (ps : List (α × α)) :
    unpaired (p :: ps) = p.1 :: p.2 :: unpaired ps := rfl

lemma pairs_eq_some_iff {α : Type} {l : List α} {ps : List (α × α)} :
    pairs l = some ps ↔ l = unpaired ps := by
  constructor
  · intro h
    fun_induction pairs l generalizing ps with
    | case1 =>
      cases h
      rfl
    | case2 => cases h
    | case3 a b rest ih =>
      obtain ⟨more, hmore, rfl⟩ := Option.map_eq_some_iff.mp h
      rw [ih hmore, unpaired_cons]
  · rintro rfl
    induction ps with
    | nil => rfl
    | cons p rest ih => rw [unpaired_cons, pairs, ih, Option.map_some]

/-- What a text is cut into holds no separator. -/
lemma notMem_of_mem_splitOn {c : Char} {s w : List Char} (h : w ∈ s.splitOn c) : c ∉ w := by
  rw [List.splitOn_eq_splitOnP] at h
  induction s generalizing w with
  | nil =>
    rw [List.mem_singleton.mp h]
    exact List.not_mem_nil
  | cons d s ih =>
    rw [List.splitOnP_cons_eq_if_modifyHead] at h
    split at h
    · rcases List.mem_cons.mp h with rfl | h
      · exact List.not_mem_nil
      · exact ih h
    · next hd =>
      have hne : c ≠ d := fun hc => hd (by simp [hc])
      cases hcut : s.splitOnP (· == c) with
      | nil =>
        rw [hcut] at h
        cases h
      | cons first rest =>
        rw [hcut] at ih h
        rcases List.mem_cons.mp h with rfl | h
        · exact List.not_mem_cons_of_ne_of_not_mem hne (ih (.head _))
        · exact ih (.tail _ h)

/-- Pairs are read back from their fields if these hold no commas, and not otherwise. -/
lemma read?_intercalate_iff {ps : List (String × String)} :
    read? (",".intercalate (unpaired ps)) = some ps ↔ ∀ f ∈ unpaired ps, ',' ∉ f.toList := by
  cases ps with
  | nil => simp [read?, unpaired]
  | cons p rest =>
    have hne : ",".intercalate (unpaired (p :: rest)) ≠ "" := by
      rw [unpaired_cons, String.intercalate_cons_cons]
      simp
    rw [read?, if_neg hne, pairs_eq_some_iff]
    constructor
    · intro h f hf
      rw [← h] at hf
      obtain ⟨w, hw, rfl⟩ := List.mem_map.mp hf
      rw [String.toList_ofList]
      exact notMem_of_mem_splitOn hw
    · exact items_intercalate (by simp [unpaired_cons])

end Snapshot

/-! ### Texts of values -/

namespace Decimal

lemma mem_positional {n k : Nat} {c : Char} (h : c ∈ positional n k) :
    c.isDigit = true ∨ c = '.' := by
  have hdigit {m : Nat} (hc : c ∈ Nat.toDigits 10 m) : c.isDigit = true :=
    Nat.isDigit_of_mem_toDigits (by decide) (by decide) hc
  rw [positional] at h
  split at h
  · exact .inl (hdigit h)
  · rcases List.mem_append.mp h with h | h
    · exact .inl (hdigit h)
    · rcases List.mem_cons.mp h with h | h
      · exact .inr h
      · obtain ⟨z, hz⟩ := dropTrailingZeros_append (padded k (n % Nat.pow 10 k))
        refine .inl (isDigit_of_mem_padded (k := k) (m := n % Nat.pow 10 k) ?_)
        rw [hz]
        exact List.mem_append_left _ h

section Absent

variable {c : Char} (hdigit : c.isDigit = false) (hpoint : c ≠ '.')
include hdigit hpoint

lemma notMem_textOfRank (r : Nat) : c ∉ textOfRank r := by
  have hzero : c ≠ '0' := by
    rintro rfl
    cases hdigit
  intro h
  rw [textOfRank] at h
  split at h
  · exact hzero (List.mem_singleton.mp h)
  · rcases mem_positional h with h | h
    · rw [hdigit] at h
      cases h
    · exact hpoint h

/-- No other characters occur in the text of a double than digits, a point, a minus sign and the
letters of the two words. -/
lemma notMem_text (hminus : c ≠ '-') (hword : c ∉ ['N', 'a', 'N', 'i', 'n', 'f']) (v : Float) :
    c ∉ text v := by
  have hnan : c ∉ ['N', 'a', 'N'] := fun h => hword (List.mem_append_left _ h)
  have hinf : c ∉ ['i', 'n', 'f'] := fun h => hword (List.mem_append_right ['N', 'a', 'N'] h)
  have hmagnitude : c ∉ if v.isFinite then textOfRank (rank v) else ['i', 'n', 'f'] := by
    split
    · exact notMem_textOfRank hdigit hpoint _
    · exact hinf
  rw [text]
  split
  · exact hnan
  · dsimp only
    split
    · exact List.not_mem_cons_of_ne_of_not_mem hminus hmagnitude
    · exact hmagnitude

end Absent

end Decimal

lemma comma_notMem_valueText (v : Float) : ',' ∉ (valueText v).toList := by
  rw [valueText, String.toList_ofList]
  exact Decimal.notMem_text (by decide) (by decide) (by decide) (by decide) v

/-! ### Tags that are told apart -/

lemma nodup_of_firstRepeated? {l seen : List String} (h : firstRepeated? l seen = none) :
    l.Nodup ∧ ∀ a ∈ l, a ∉ seen := by
  induction l generalizing seen with
  | nil => exact ⟨List.nodup_nil, nofun⟩
  | cons a l ih =>
    rw [firstRepeated?] at h
    split at h
    · cases h
    · next ha =>
      obtain ⟨hnodup, hfresh⟩ := ih h
      refine ⟨List.nodup_cons.mpr ⟨fun hmem => hfresh a hmem (.head _), hnodup⟩, ?_⟩
      intro b hb
      rcases List.mem_cons.mp hb with rfl | hb
      · simpa using ha
      · exact fun hmem => hfresh b hb (.tail _ hmem)

/-- No two detectors of settings that can be used have the same tag. -/
lemma Settings.nodup_tags {settings : Settings} (h : settings.validate = .ok ()) :
    settings.scan.detectors.values.Nodup := by
  rw [validate] at h
  split at h
  · cases h
  · next hrule =>
    cases hrepeated : firstRepeated? settings.scan.detectors.values [] with
    | none => exact (nodup_of_firstRepeated? hrepeated).1
    | some tag =>
      rw [brokenRule?, hrepeated] at hrule
      split_ifs at hrule

namespace ScanSettings

variable {settings : ScanSettings}

variable (settings) in
/-- The identifier that is listed with the tag of the ion counter. -/
def ionCounter? : Option String :=
  (settings.detectors.entries.find? fun e => e.2 = settings.ionCounterTag).map (·.1)

/-- The collector with the tag of the ion counter is the one that is listed with it, unless this tag
is empty and the collector is not listed. -/
lemma tagOf_eq_ionCounterTag_iff (hdistinct : settings.detectors.values.Nodup) {c : Collector}
    (hlisted : settings.ionCounterTag = "" → c.identifier ∈ settings.detectors.keys) :
    settings.tagOf c = settings.ionCounterTag ↔ settings.ionCounter? = some c.identifier := by
  rw [tagOf, ionCounter?]
  constructor
  · intro h
    cases hfound : settings.detectors.get? c.identifier with
    | none =>
      rw [hfound] at h
      exact absurd hfound (Table.mem_keys_iff.mp (hlisted h.symm))
    | some tag =>
      obtain rfl : tag = settings.ionCounterTag := by simpa [hfound] using h
      have hfirst := find?_eq_some_of_nodup (fun e : String × String => e.2) hdistinct
        (Keyed.mem_of_find? hfound)
      rw [hfirst, Option.map_some]
  · intro h
    obtain ⟨⟨identifier, tag⟩, hfound, rfl⟩ := Option.map_eq_some_iff.mp h
    have htagged : tag = settings.ionCounterTag := by simpa using List.find?_some hfound
    rw [Table.get?, settings.detectors.sorted.find?_of_mem (List.mem_of_find?_eq_some hfound),
      htagged, Option.getD_some]

/-! ### What a snapshot should tell -/

variable (settings) in
/-- Whether a reading is one of the ion counter. -/
def ofIonCounter (r : Collector × Float) : Bool := settings.ionCounter? = some r.1.identifier

variable (settings) in
/-- The readings as they should be told: those of all collectors but the ion counter, the last one
first, each with the tag of its collector, and then the last reading of the ion counter. -/
def report (readings : List (Collector × Float)) : List (String × Float) :=
  ((readings.filter fun r => !settings.ofIonCounter r).reverse.map fun r =>
      (settings.tagOf r.1, r.2))
    ++ (readings.filter settings.ofIonCounter).getLast?.toList.map fun r =>
      (settings.ionCounterTag, r.2)

variable {readings : List (Collector × Float)}

lemma arranged_tagged (hdistinct : settings.detectors.values.Nodup)
    (hlisted : settings.ionCounterTag = "" →
      ∀ r ∈ readings, r.1.identifier ∈ settings.detectors.keys) :
    settings.arranged (settings.tagged readings) = settings.report readings := by
  have hof : ∀ r ∈ readings,
      settings.ofIonCounter r = decide (settings.tagOf r.1 = settings.ionCounterTag) := by
    intro r hr
    rw [ofIonCounter, decide_eq_decide]
    exact (tagOf_eq_ionCounterTag_iff hdistinct fun h => hlisted h r hr).symm
  have hothers : (readings.filter fun r => !settings.ofIonCounter r)
      = readings.filter fun r => settings.tagOf r.1 ≠ settings.ionCounterTag :=
    List.filter_congr fun r hr => by rw [hof r hr, decide_not]
  have hcounter : readings.filter settings.ofIonCounter
      = readings.filter fun r => settings.tagOf r.1 = settings.ionCounterTag :=
    List.filter_congr hof
  rw [report, hothers, hcounter, arranged, tagged, List.filter_map, List.filter_map,
    List.getLast?_map, List.map_reverse, Function.comp_def, Function.comp_def]
  cases hlast : (readings.filter fun r => settings.tagOf r.1 = settings.ionCounterTag).getLast? with
  | none => rfl
  | some r =>
    have hr : settings.tagOf r.1 = settings.ionCounterTag := by
      simpa using (List.mem_filter.mp (List.mem_of_getLast? hlast)).2
    rw [Option.map_some, Option.toList_some, Option.toList_some, List.map_singleton, hr]

/-- What is told has a tag of a detector or none. -/
lemma tag_of_mem_report {p : String × Float} (h : p ∈ settings.report readings) :
    p.1 ∈ settings.detectors.values ∨ p.1 = "" := by
  rw [report] at h
  rcases List.mem_append.mp h with h | h
  · obtain ⟨r, -, rfl⟩ := List.mem_map.mp h
    cases hfound : settings.detectors.get? r.1.identifier with
    | none => exact .inr (by rw [tagOf, hfound, Option.getD_none])
    | some tag =>
      rw [tagOf, hfound, Option.getD_some]
      exact .inl (List.mem_map_of_mem (f := (·.2)) (Keyed.mem_of_find? hfound))
  · obtain ⟨r, hr, rfl⟩ := List.mem_map.mp h
    have hof := (List.mem_filter.mp (List.mem_of_getLast? (Option.mem_toList.mp hr))).2
    rw [ofIonCounter, decide_eq_true_iff, ionCounter?] at hof
    obtain ⟨e, he, -⟩ := Option.map_eq_some_iff.mp hof
    have htag : e.2 = settings.ionCounterTag := by simpa using List.find?_some he
    rw [← htag]
    exact .inl (List.mem_map_of_mem (List.mem_of_find?_eq_some he))

end ScanSettings

/-! ### Reading back -/

namespace Snapshot

/-- A reading as it is shown. -/
def shown (r : String × Float) : String × String := (r.1, valueText r.2)

lemma fieldsOf_eq_unpaired {settings : ScanSettings} (h : settings.tagData = true)
    (readings : List (String × Float)) :
    fieldsOf settings readings = unpaired (readings.map shown) := by
  rw [fieldsOf, unpaired, List.flatMap_map]
  refine List.flatMap_congr fun r _ => ?_
  rw [ScanSettings.entry, if_pos h, shown]

lemma forall_unpaired_shown {readings : List (String × Float)} :
    (∀ f ∈ unpaired (readings.map shown), ',' ∉ f.toList) ↔ ∀ r ∈ readings, ',' ∉ r.1.toList := by
  rw [unpaired, List.flatMap_map]
  constructor
  · intro h r hr
    exact h r.1 (List.mem_flatMap.mpr ⟨r, hr, .head _⟩)
  · intro h f hf
    obtain ⟨r, hr, hf⟩ := List.mem_flatMap.mp hf
    rcases List.mem_cons.mp hf with rfl | hf
    · exact h r hr
    · rw [List.mem_singleton.mp hf]
      exact comma_notMem_valueText r.2

end Snapshot

open Snapshot

/-- Snapshots with tags tell all readings, unless the tag of the ion counter is empty and a reading
is that of a collector without a tag. What they tell is read back if and only if no tag in it holds
a comma. -/
theorem ScanSettings.snapshot_tells_report (settings : Settings)
    (hvalid : settings.validate = .ok ()) (htagged : settings.scan.tagData = true) (cup : Cup)
    (x : Spectrum)
    (hlisted : settings.scan.ionCounterTag = "" →
      ∀ r ∈ cup.readings x.points, r.1.identifier ∈ settings.scan.detectors.keys) :
    let report := (settings.scan.report (cup.readings x.points)).map shown
    settings.scan.snapshot cup x = ",".intercalate (unpaired report) ∧
      ((∀ tag ∈ settings.scan.detectors.values, ',' ∉ tag.toList) →
        read? (settings.scan.snapshot cup x) = some report) ∧
      (read? (settings.scan.snapshot cup x) = some report ↔
        ∀ p ∈ report, ',' ∉ p.1.toList) := by
  have hsnapshot : settings.scan.snapshot cup x
      = ",".intercalate (unpaired ((settings.scan.report (cup.readings x.points)).map shown)) := by
    rw [snapshot_eq, arranged_tagged (Settings.nodup_tags hvalid) hlisted,
      fieldsOf_eq_unpaired htagged]
  dsimp only
  rw [hsnapshot, read?_intercalate_iff, forall_unpaired_shown]
  refine ⟨rfl, ?_, by simp only [List.forall_mem_map, shown]⟩
  intro htags r hr
  rcases tag_of_mem_report hr with h | h
  · exact htags r.1 h
  · rw [h]
    decide

/-- The ion counter is read twice, and a collector without a tag stands between the others. -/
theorem ScanSettings.snapshot_tells_report_argon :
    let settings : Settings := {}
    let cup : Cup :=
      ⟨"cc-1", "Argon", [], [.faraday "CUP 4" (some 40), .faraday "CUP 9" (some 38),
        .counter "CDD 0" (some 36)]⟩
    let x : Spectrum := ⟨[[⟨36, 10⟩, ⟨40, 1.5⟩], [⟨12, 99⟩, ⟨38, 0.5⟩], [⟨36, 11⟩]]⟩
    settings.scan.snapshot cup x = ",0.5,H2,1.5,CDD,11" ∧
      read? (settings.scan.snapshot cup x) = some [("", "0.5"), ("H2", "1.5"), ("CDD", "11")] := by
  intro settings cup x
  have hreport : (settings.scan.report (cup.readings x.points)).map shown
      = [("", "0.5"), ("H2", "1.5"), ("CDD", "11")] := by decide +kernel
  obtain ⟨hsnapshot, hread, -⟩ := snapshot_tells_report settings (by decide +kernel) rfl cup x
    (fun h => absurd h (by decide))
  rw [hreport] at hsnapshot hread
  exact ⟨hsnapshot, hread (by decide +kernel)⟩

/-- Of the readings of two collectors without tags a snapshot tells only the last one if the tag of
the ion counter is empty too. A tag with a comma in it is not read back. -/
theorem ScanSettings.read?_snapshot_ne :
    let untagged : Settings := { scan := { ionCounterTag := "" } }
    let divided : Settings := { scan := { detectors := .ofList [("CUP 8", "H,2")] } }
    let cup : Cup := ⟨"cc-1", "Argon", [], [.faraday "CUP 8" (some 44), .faraday "CUP 9" (some 45)]⟩
    let x : Spectrum := ⟨[[⟨44, 1⟩], [⟨45, 2⟩]]⟩
    (untagged.validate = .ok () ∧ untagged.scan.tagData = true ∧
      (untagged.scan.report (cup.readings x.points)).map shown = [("", "2"), ("", "1")] ∧
      untagged.scan.snapshot cup x = ",2" ∧
      read? (untagged.scan.snapshot cup x) = some [("", "2")]) ∧
    (divided.validate = .ok () ∧ divided.scan.tagData = true ∧
      (divided.scan.report (cup.readings x.points)).map shown = [("", "2"), ("H,2", "1")] ∧
      divided.scan.snapshot cup x = ",2,H,2,1" ∧
      read? (divided.scan.snapshot cup x) = none) := by
  decide +kernel

end SpectroRemote
