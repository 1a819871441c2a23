import Mathlib.Algebra.Order.Ring.Nat
import Polyglot.Evaluation.Table
import Polyglot.Proofs.Confusion

/-!
# Alignment

The confusion matrix is printed line by line, and every text of a line is padded to the
width of its column.  Names always fit their columns, since a character takes at least one
byte.  A count only fits if it has no more digits than its column is wide, so the lines are
aligned exactly if all counts do; a thousand equal pairs are too many for a short label.
-/

namespace Polyglot

namespace Text

theorem length_spaces (n : Nat) : (spaces n).length = n := by
  rw [spaces, String.length_ofList, List.length_replicate]

theorem length_padLeft (width : Nat) (s : String) :
    (padLeft width s).length = max width s.length := by
  rw [padLeft, String.length_append, length_spaces]
  omega

theorem length_padLeft_of_le {width : Nat} {s : String} (h : s.length ≤ width) :
    (padLeft width s).length = width := by
  rw [length_padLeft, Nat.max_eq_left h]

theorem mem_of_mem_padLeft {width : Nat} {s : String} {c : Char} (hc : c ≠ ' ')
    (h : c ∈ (padLeft width s).toList) : c ∈ s.toList := by
  rw [padLeft, String.toList_append, spaces, String.toList_ofList] at h
  cases List.mem_append.mp h with
  | inl hspace => exact absurd (List.eq_of_mem_replicate hspace) hc
  | inr htext => exact htext

theorem length_le_bytes (s : String) : s.length ≤ (bytes s).length := by
  rw [← String.length_toList, bytes]
  induction s.toList with
  | nil => exact Nat.le_refl 0
  | cons c cs ih =>
      have hc := c.utf8Size_pos
      rw [utf8, List.flatMap_cons, List.length_append, String.length_utf8EncodeChar,
        List.length_cons]
      rw [utf8] at ih
      omega

theorem splitOn_join {lines : List String} (h : forall line, line ∈ lines -> '\n' ∉ line.toList) :
    (String.join (lines.map (· ++ "\n"))).toList.splitOn '\n' =
      lines.map String.toList ++ [[]] := by
  induction lines with
  | nil => rfl
  | cons line lines ih =>
      have hrest := ih fun l hl => h l (List.mem_cons_of_mem line hl)
      rw [List.map_cons, String.join_cons, String.toList_append, String.toList_append,
        List.append_assoc]
      show (line.toList ++ '\n' :: (String.join (lines.map (· ++ "\n"))).toList).splitOn '\n' = _
      rw [List.splitOn_append_cons_self_of_not_mem (h line List.mem_cons_self), hrest]
      rfl

end Text

namespace Report

/-!
## Lines of fields
-/

structure Field where
  width : Nat
  text : String

namespace Field

def Fits (f : Field) : Prop :=
  f.text.length ≤ f.width

def printed (f : Field) : String :=
  " " ++ Text.padLeft f.width f.text

theorem length_printed (f : Field) : f.printed.length = 1 + max f.width f.text.length := by
  rw [printed, String.length_append, Text.length_padLeft]
  rfl

end Field

def extent (widths : List Nat) : Nat :=
  (widths.map (1 + ·)).sum

theorem extent_cons (width : Nat) (widths : List Nat) :
    extent (width :: widths) = 1 + width + extent widths := by
  rw [extent, List.map_cons, List.sum_cons, extent]

def line (width : Nat) (name : String) (fields : List Field) : String :=
  Text.padLeft width name ++ String.join (fields.map Field.printed)

section Lines

variable {width : Nat} {name : String} {fields : List Field}

theorem length_join_cons (f : Field) (fields : List Field) :
    (String.join ((f :: fields).map Field.printed)).length =
      f.printed.length + (String.join (fields.map Field.printed)).length := by
  rw [List.map_cons, String.join_cons, String.length_append]

theorem extent_le (fields : List Field) :
    extent (fields.map Field.width) ≤ (String.join (fields.map Field.printed)).length := by
  induction fields with
  | nil => exact Nat.le_refl 0
  | cons f fields ih =>
      have hf := f.length_printed
      rw [length_join_cons, List.map_cons, extent_cons]
      omega

theorem length_join_eq_iff (fields : List Field) :
    (String.join (fields.map Field.printed)).length = extent (fields.map Field.width) ↔
      forall f, f ∈ fields -> f.Fits := by
  induction fields with
  | nil => simp [extent]
  | cons f fields ih =>
      have hle := extent_le fields
      have hf := f.length_printed
      rw [length_join_cons, List.map_cons, extent_cons, List.forall_mem_cons, ← ih]
      show _ ↔ f.text.length ≤ f.width ∧ _
      omega

theorem length_line_eq_iff (hname : name.length ≤ width) :
    (line width name fields).length = width + extent (fields.map Field.width) ↔
      forall f, f ∈ fields -> f.Fits := by
  rw [line, String.length_append, Text.length_padLeft_of_le hname, Nat.add_left_cancel_iff]
  exact length_join_eq_iff fields

/-- A field that fits stands in a line behind `start` characters. -/
def Stands (line : String) (start : Nat) (f : Field) : Prop :=
  f.Fits ∧ ∃ before after, line = before ++ f.printed ++ after ∧ before.length = start

theorem stands_line (hname : name.length ≤ width) (hfits : forall f, f ∈ fields -> f.Fits)
    {j : Nat} {f : Field} (hf : fields[j]? = some f) :
    Stands (line width name fields) (width + extent ((fields.map Field.width).take j)) f := by
  have hparts : fields = fields.take j ++ f :: fields.drop (j + 1) := by
    rcases List.getElem?_eq_some_iff.mp hf with ⟨hj, rfl⟩
    rw [List.getElem_cons_drop, List.take_append_drop]
  have hprinted : String.join (fields.map Field.printed) =
      String.join ((fields.take j).map Field.printed) ++ f.printed ++
        String.join ((fields.drop (j + 1)).map Field.printed) := by
    rw [String.append_assoc, ← String.join_cons, ← List.map_cons, ← String.join_append,
      ← List.map_append, ← hparts]
  constructor
  · exact hfits f (List.mem_of_getElem? hf)
  refine ⟨line width name (fields.take j),
    String.join ((fields.drop (j + 1)).map Field.printed), ?_, ?_⟩
  · rw [line, line, hprinted, String.append_assoc, String.append_assoc, String.append_assoc]
  · rw [← List.map_take]
    apply (length_line_eq_iff hname).mpr
    intro g hg
    exact hfits g (List.mem_of_mem_take hg)

theorem break_not_mem_line (hname : '\n' ∉ name.toList)
    (hfields : forall f, f ∈ fields -> '\n' ∉ f.text.toList) :
    '\n' ∉ (line width name fields).toList := by
  intro hmem
  rw [line, String.toList_append, String.toList_join] at hmem
  cases List.mem_append.mp hmem with
  | inl hfirst => exact hname (Text.mem_of_mem_padLeft (by decide) hfirst)
  | inr hrest =>
      rcases List.mem_flatMap.mp hrest with ⟨text, htext, hbreak⟩
      rcases List.mem_map.mp htext with ⟨f, hf, rfl⟩
      rw [Field.printed, String.toList_append] at hbreak
      cases List.mem_append.mp hbreak with
      | inl hspace => exact absurd hspace (by decide)
      | inr hpadded => exact hfields f hf (Text.mem_of_mem_padLeft (by decide) hpadded)

end Lines

/-!
## Lines of the confusion matrix
-/

theorem le_foldl_max {widths : List Nat} {start width : Nat}
    (h : width ≤ start ∨ width ∈ widths) : width ≤ widths.foldl max start := by
  induction widths generalizing start with
  | nil => exact h.resolve_right List.not_mem_nil
  | cons first widths ih =>
      rw [List.foldl_cons]
      apply ih
      rcases h with hstart | hmem
      · exact .inl (Nat.le_trans hstart (Nat.le_max_left _ _))
      · rcases List.mem_cons.mp hmem with rfl | hmem
        · exact .inl (Nat.le_max_right _ _)
        · exact .inr hmem

theorem length_le_firstWidth {r : Report} {label : String} (h : label ∈ r.labels) :
    label.length ≤ r.firstWidth :=
  Nat.le_trans (Text.length_le_bytes label) (le_foldl_max (.inr (List.mem_map_of_mem h)))

theorem three_le_countWidth (label : String) : 3 ≤ countWidth label :=
  Nat.le_max_right _ _

def headingFields (r : Report) : List Field :=
  r.labels.map fun label => ⟨countWidth label, label⟩

def countFields (r : Report) (i : Nat) : List Field :=
  r.labels.zipIdx.map fun p => ⟨countWidth p.1, toString (entry r.confusion i p.2)⟩

section Matrix

variable (r : Report)

theorem confusionHeading_eq : r.confusionHeading = line r.firstWidth "" r.headingFields := by
  rw [confusionHeading, line, headingFields, List.map_map]
  rfl

theorem confusionLine_eq (label : String) (i : Nat) :
    r.confusionLine label i = line r.firstWidth label (r.countFields i) := by
  rw [confusionLine, line, countFields, List.map_map]
  rfl

theorem widths_headingFields : r.headingFields.map Field.width = r.labels.map countWidth := by
  rw [headingFields, List.map_map]
  rfl

theorem widths_countFields (i : Nat) :
    (r.countFields i).map Field.width = r.labels.map countWidth := by
  have hlabels := congrArg (List.map countWidth) (List.zipIdx_map_fst 0 r.labels)
  rw [List.map_map] at hlabels
  rw [countFields, List.map_map]
  exact hlabels

theorem fits_of_mem_headingFields {f : Field} (h : f ∈ r.headingFields) : f.Fits := by
  rcases List.mem_map.mp h with ⟨label, _, rfl⟩
  exact Nat.le_trans (Text.length_le_bytes label) (Nat.le_max_left _ _)

theorem fits_count_iff (label : String) (count : Nat) :
    (Field.mk (countWidth label) (toString count)).Fits ↔ count < 10 ^ countWidth label :=
  Nat.length_repr_le_iff (Nat.lt_of_lt_of_le (by decide) (three_le_countWidth label))

theorem getElem?_headingFields {j : Nat} {label : String} (h : r.labels[j]? = some label) :
    r.headingFields[j]? = some ⟨countWidth label, label⟩ := by
  rw [headingFields, List.getElem?_map, h]
  rfl

theorem getElem?_countFields (i : Nat) {j : Nat} {label : String}
    (h : r.labels[j]? = some label) :
    (r.countFields i)[j]? = some ⟨countWidth label, toString (entry r.confusion i j)⟩ := by
  rw [countFields, List.getElem?_map, List.getElem?_zipIdx, h, Nat.zero_add]
  rfl

def columnStart (j : Nat) : Nat :=
  r.firstWidth + extent ((r.labels.map countWidth).take j)

def CountsFit : Prop :=
  forall i j label, i < r.labels.length -> r.labels[j]? = some label ->
    entry r.confusion i j < 10 ^ countWidth label

def Aligned : Prop :=
  forall line, line ∈ r.confusionLines -> line.length = r.confusionHeading.length

theorem countsFit_iff : r.CountsFit ↔
    forall i, i < r.labels.length -> forall f, f ∈ r.countFields i -> f.Fits := by
  constructor
  · intro hfit i hi f hf
    rcases List.mem_map.mp hf with ⟨⟨label, j⟩, hmem, rfl⟩
    exact (fits_count_iff label _).mpr (hfit i j label hi (List.mem_zipIdx_iff_getElem?.mp hmem))
  · intro hfit i j label hi hlabel
    apply (fits_count_iff label _).mp
    exact hfit i hi _ (List.mem_of_getElem? (r.getElem?_countFields i hlabel))

theorem length_confusionHeading :
    r.confusionHeading.length = r.firstWidth + extent (r.labels.map countWidth) := by
  rw [confusionHeading_eq, ← widths_headingFields]
  exact (length_line_eq_iff (Nat.zero_le _)).mpr fun _ => r.fits_of_mem_headingFields

theorem length_confusionLine_eq_iff {label : String} (h : label ∈ r.labels) (i : Nat) :
    (r.confusionLine label i).length = r.confusionHeading.length ↔
      forall f, f ∈ r.countFields i -> f.Fits := by
  rw [length_confusionHeading, confusionLine_eq, ← r.widths_countFields i]
  exact length_line_eq_iff (length_le_firstWidth h)

/-- The lines are aligned exactly if all counts fit. -/
theorem aligned_iff_countsFit : r.Aligned ↔ r.CountsFit := by
  rw [countsFit_iff]
  constructor
  · intro haligned i hi
    have hmem : r.labels[i] ∈ r.labels := List.getElem_mem hi
    apply (r.length_confusionLine_eq_iff hmem i).mp
    apply haligned
    apply List.mem_cons_of_mem
    exact List.mem_map.mpr ⟨(r.labels[i], i), List.mk_mem_zipIdx_iff_getElem?.mpr
      (List.getElem?_eq_getElem hi), rfl⟩
  · intro hfit line hline
    rcases List.mem_cons.mp hline with rfl | hline
    · rfl
    · rcases List.mem_map.mp hline with ⟨⟨label, i⟩, hmem, rfl⟩
      have hlabel := List.mem_zipIdx_iff_getElem?.mp hmem
      rcases List.getElem?_eq_some_iff.mp hlabel with ⟨hi, _⟩
      exact (r.length_confusionLine_eq_iff (List.mem_of_getElem? hlabel) i).mpr (hfit i hi)

theorem stands_of_countsFit (hfit : r.CountsFit) {i j : Nat} {name label : String}
    (hname : r.labels[i]? = some name) (hlabel : r.labels[j]? = some label) :
    Stands r.confusionHeading (r.columnStart j) ⟨countWidth label, label⟩ ∧
      Stands (r.confusionLine name i) (r.columnStart j)
        ⟨countWidth label, toString (entry r.confusion i j)⟩ := by
  have hi : i < r.labels.length := (List.getElem?_eq_some_iff.mp hname).1
  have hcounts := r.countsFit_iff.mp hfit i hi
  constructor
  · rw [confusionHeading_eq, columnStart, ← widths_headingFields]
    exact stands_line (Nat.zero_le _) (fun _ => r.fits_of_mem_headingFields)
      (r.getElem?_headingFields hlabel)
  · rw [confusionLine_eq, columnStart, ← r.widths_countFields i]
    exact stands_line (length_le_firstWidth (List.mem_of_getElem? hname)) hcounts
      (r.getElem?_countFields i hlabel)

/-!
## The printed matrix
-/

theorem break_not_mem_toString (n : Nat) : '\n' ∉ (toString n).toList := by
  intro hmem
  have hdigit := Nat.isDigit_of_mem_toDigits (b := 10) (by decide) (by decide)
    (show '\n' ∈ Nat.toDigits 10 n by simpa using hmem)
  exact absurd hdigit (by decide)

theorem break_not_mem_confusionLines (hlabels : forall label, label ∈ r.labels ->
    '\n' ∉ label.toList) {line : String} (hline : line ∈ r.confusionLines) :
    '\n' ∉ line.toList := by
  rcases List.mem_cons.mp hline with rfl | hline
  · rw [confusionHeading_eq]
    apply break_not_mem_line (by decide)
    intro f hf
    rcases List.mem_map.mp hf with ⟨label, hlabel, rfl⟩
    exact hlabels label hlabel
  · rcases List.mem_map.mp hline with ⟨⟨label, i⟩, hmem, rfl⟩
    rw [confusionLine_eq]
    have hlabel := List.mem_of_getElem? (List.mem_zipIdx_iff_getElem?.mp hmem)
    apply break_not_mem_line (hlabels label hlabel)
    intro f hf
    rcases List.mem_map.mp hf with ⟨p, _, rfl⟩
    exact break_not_mem_toString _

def confusionTitle : String :=
  "Confusion matrix (rows: true, columns: predicted):"

theorem exists_table_eq : ∃ before, r.table = before ++ "\n" ++ (confusionTitle ++ "\n") ++
    String.join (r.confusionLines.map (· ++ "\n")) := by
  have htitle : confusionTitle ++ "\n" =
      "Confusion matrix (rows: true, columns: predicted):\n" := by
    decide
  rw [htitle]
  exact ⟨_, rfl⟩

theorem exists_splitOn_table (hlabels : forall label, label ∈ r.labels ->
    '\n' ∉ label.toList) :
    ∃ before, r.table.toList.splitOn '\n' =
      before ++ confusionTitle.toList :: r.confusionLines.map String.toList ++ [[]] := by
  have hbreak : '\n' ∉ confusionTitle.toList := by decide
  have hlines : (String.join (r.confusionLines.map (· ++ "\n"))).toList.splitOn '\n' =
      r.confusionLines.map String.toList ++ [[]] :=
    Text.splitOn_join fun _ => r.break_not_mem_confusionLines hlabels
  rcases r.exists_table_eq with ⟨before, htable⟩
  have hparts : r.table.toList = before.toList ++ '\n' :: (confusionTitle.toList ++ '\n' ::
      (String.join (r.confusionLines.map (· ++ "\n"))).toList) := by
    simp [htable]
  refine ⟨before.toList.splitOn '\n', ?_⟩
  rw [hparts, List.splitOn_append_cons_self, List.splitOn_append_cons_self_of_not_mem hbreak,
    hlines, List.append_assoc, List.cons_append]

end Matrix

/-!
## Reports on samples
-/

section Samples

variable {labels expected predicted : List String} {trainSize : Nat} {r : Report}

theorem countsFit_of_lt (h : ofPredictions labels expected predicted trainSize = .ok r)
    (hfew : expected.length < 1000) : r.CountsFit := by
  rcases ofPredictions_eq_ok_iff.mp h with ⟨hcomparable, rfl⟩
  intro i j label hi hlabel
  have hi : i < labels.length := hi
  have hj : j < labels.length := (List.getElem?_eq_some_iff.mp hlabel).1
  rw [entry_ofPairs hi hj]
  calc
    _ ≤ (expected.zip predicted).length := List.countP_le_length
    _ < 10 ^ 3 := by rwa [hcomparable.length_zip]
    _ ≤ 10 ^ countWidth label :=
      Nat.pow_le_pow_right (by decide) (three_le_countWidth label)

/--
The printed report of labels without line breaks ends with the lines of the confusion
matrix.  They all have the same number of characters exactly if no count has more digits
than its column is wide, which is always so for fewer than a thousand samples; then every
count stands where the label of its column stands in the heading.
-/
theorem aligned_of_ofPredictions
    (h : ofPredictions labels expected predicted trainSize = .ok r)
    (hlabels : forall label, label ∈ labels -> '\n' ∉ label.toList) :
    (∃ before, r.table.toList.splitOn '\n' =
      before ++ confusionTitle.toList :: r.confusionLines.map String.toList ++ [[]]) ∧
    r.confusionLines.length = labels.length + 1 ∧
    (r.Aligned ↔ forall i j label, i < labels.length -> labels[j]? = some label ->
      entry r.confusion i j < 10 ^ countWidth label) ∧
    (expected.length < 1000 -> r.Aligned) ∧
    (r.Aligned -> forall i j name label, labels[i]? = some name -> labels[j]? = some label ->
      Stands r.confusionHeading (r.columnStart j) ⟨countWidth label, label⟩ ∧
        Stands (r.confusionLine name i) (r.columnStart j)
          ⟨countWidth label, toString (entry r.confusion i j)⟩) := by
  have hsame : r.labels = labels := (of_ofPredictions h).2.1
  subst hsame
  refine ⟨r.exists_splitOn_table hlabels, ?_, r.aligned_iff_countsFit, ?_, ?_⟩
  · rw [confusionLines, List.length_cons, List.length_map, List.length_zipIdx]
  · intro hfew
    exact r.aligned_iff_countsFit.mpr (countsFit_of_lt h hfew)
  · intro haligned i j name label
    exact r.stands_of_countsFit (r.aligned_iff_countsFit.mp haligned)

end Samples

/-- Labels of more bytes than characters are aligned as all others are. -/
theorem aligned_of_ofPredictions_greek :
    ∃ r, ofPredictions ["γλώσσα", "c"] ["c", "γλώσσα", "c"] ["c", "c", "γλώσσα"] 0 = .ok r ∧
      (forall label, label ∈ ["γλώσσα", "c"] -> '\n' ∉ label.toList) ∧ r.Aligned := by
  have hcomparable : Comparable ["γλώσσα", "c"] ["c", "γλώσσα", "c"] ["c", "c", "γλώσσα"] := by
    constructor <;> decide
  have hlabels : forall label, label ∈ ["γλώσσα", "c"] -> '\n' ∉ label.toList := by decide
  have hreport := @ofPredictions_of_comparable _ _ _ 0 hcomparable
  exact ⟨_, hreport, hlabels, (aligned_of_ofPredictions hreport hlabels).2.2.2.1 (by decide)⟩

/-- A thousand samples of one short label push the counts behind them out of their columns. -/
theorem misaligned_thousand :
    ∃ r, ofPredictions ["a", "b"] (List.replicate 1000 "a") (List.replicate 1000 "a") 1 = .ok r ∧
      (forall label, label ∈ ["a", "b"] -> '\n' ∉ label.toList) ∧
      r.confusionLines = [r.confusionHeading, r.confusionLine "a" 0, r.confusionLine "b" 1] ∧
      r.confusionHeading.length = 20 ∧ (r.confusionLine "a" 0).length = 21 := by
  have hknown : forall label, label ∈ List.replicate 1000 "a" -> label ∈ ["a", "b"] := by
    intro label hlabel
    rw [List.eq_of_mem_replicate hlabel]
    exact List.mem_cons_self
  have hcomparable : Comparable ["a", "b"] (List.replicate 1000 "a") (List.replicate 1000 "a") :=
    ⟨rfl, hknown, hknown⟩
  have hcounts : entry (ofPairs ["a", "b"] ((List.replicate 1000 "a").zip
        (List.replicate 1000 "a")) 1).confusion 0 0 = 1000 ∧
      entry (ofPairs ["a", "b"] ((List.replicate 1000 "a").zip
        (List.replicate 1000 "a")) 1).confusion 0 1 = 0 := by
    rw [entry_ofPairs (by decide) (by decide), entry_ofPairs (by decide) (by decide),
      List.zip_replicate', List.countP_replicate, List.countP_replicate]
    exact ⟨rfl, rfl⟩
  refine ⟨_, ofPredictions_of_comparable hcomparable, by decide, rfl, ?_⟩
  -- The labels and two counts decide the lengths, so the samples are put out of sight.
  generalize (List.replicate 1000 "a").zip (List.replicate 1000 "a") = pairs at hcounts
  constructor
  · rw [length_confusionHeading]
    rfl
  · rw [confusionLine_eq, line, countFields, String.length_append, String.length_join,
      Text.length_padLeft]
    show _ + ((Field.printed ⟨countWidth "a", toString (entry _ 0 0)⟩).length +
      ((Field.printed ⟨countWidth "b", toString (entry _ 0 1)⟩).length + 0)) = 21
    rw [hcounts.1, hcounts.2, Field.length_printed, Field.length_printed]
    rfl

end Report
end Polyglot
