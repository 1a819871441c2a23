import Polyglot.Features.Layout
import Polyglot.Proofs.Fitting
import Polyglot.Proofs.Spelling

/-!
# Layouts

The bytes of a layout tell the settings apart, but terms are told apart only as
far as none of them holds a separator in an unlucky place.  The main statements
say when two layouts with the same bytes are the same: always for fitted
vectorizers, which know the beginnings of their terms.
-/

namespace Polyglot
namespace Vectorizer

theorem length_littleEndian (count n : Nat) : (littleEndian count n).length = count := by
  induction count generalizing n with
  | zero => rfl
  | succ count ih => rw [littleEndian, List.length_cons, ih]

theorem littleEndian_inj {count m n : Nat} (hm : m < 256 ^ count) (hn : n < 256 ^ count)
    (h : littleEndian count m = littleEndian count n) : m = n := by
  induction count generalizing m n with
  | zero =>
      rw [pow_zero] at hm hn
      omega
  | succ count ih =>
      injection h with hbyte hrest
      have hdiv : m / 256 = n / 256 := by
        apply ih _ _ hrest
        · rw [Nat.div_lt_iff_lt_mul (by decide), ← pow_succ]
          exact hm
        · rw [Nat.div_lt_iff_lt_mul (by decide), ← pow_succ]
          exact hn
      have hmod : m % 256 = n % 256 := by
        have hnat := congrArg UInt8.toNat hbyte
        simpa using hnat
      omega

theorem weightBits_lt (v : Vectorizer) (column : Nat) : v.weightBits column < 256 ^ 4 := by
  unfold weightBits
  split
  · exact UInt32.toNat_lt _
  · decide

/-!
## Settings
-/

theorem toList_settingsLine (s : VectorizerSettings) :
    (settingsLine s).toList = "ngram=".toList ++ (s.leastWindow.toNat.repr.toList ++
      '-' :: (s.mostWindow.toNat.repr.toList ++ ';' :: ("lowercase=".toList ++
        ((toString s.lowercase).toList ++ (";max_features=".toList ++
          (s.maxFeatures.toNat.repr.toList ++ ['\n'])))))) := by
  show (("ngram=" ++ s.leastWindow.toNat.repr ++ "-" ++ s.mostWindow.toNat.repr ++ ";") ++
    ("lowercase=" ++ toString s.lowercase ++ ";max_features=" ++ s.maxFeatures.toNat.repr ++
      "\n")).toList = _
  simp

theorem settings_of_line {s s' : VectorizerSettings} {rest : List Char}
    (h : (settingsLine s').toList = (settingsLine s).toList ++ rest) : s = s' ∧ rest = [] := by
  rw [toList_settingsLine, toList_settingsLine] at h
  simp only [List.append_assoc, List.cons_append] at h
  rcases Text.repr_append_inj (by decide) (by decide) (List.append_cancel_left h) with
    ⟨hleast, htail⟩
  injection htail with _ htail
  rcases Text.repr_append_inj (by decide) (by decide) htail with ⟨hmost, htail⟩
  injection htail with _ htail
  have hbody := List.append_cancel_left htail
  have hlowercase : s.lowercase = s'.lowercase := by
    cases hs : s.lowercase with
    | false =>
        cases hs' : s'.lowercase with
        | false => rfl
        | true =>
            rw [hs, hs'] at hbody
            cases hbody
    | true =>
        cases hs' : s'.lowercase with
        | false =>
            rw [hs, hs'] at hbody
            cases hbody
        | true => rfl
  rw [hlowercase] at hbody
  have hlast := List.append_cancel_left (List.append_cancel_left hbody)
  rcases Text.repr_append_inj (by decide) (by decide) hlast with ⟨hfeatures, htail⟩
  injection htail with _ htail
  refine ⟨?_, htail.symm⟩
  cases s
  cases s'
  simp only [VectorizerSettings.mk.injEq]
  exact ⟨UInt64.toNat_inj.mp hfeatures.symm, UInt64.toNat_inj.mp hleast.symm,
    UInt64.toNat_inj.mp hmost.symm, hlowercase⟩

theorem settings_of_bytes {s s' : VectorizerSettings} {xs ys : List UInt8}
    (h : Text.bytes (settingsLine s) ++ xs = Text.bytes (settingsLine s') ++ ys) :
    s = s' ∧ xs = ys := by
  rcases Text.comparable_of_utf8 h with ⟨rest, hline, hrest⟩ | ⟨rest, hline, hrest⟩
  · rcases settings_of_line hline with ⟨rfl, rfl⟩
    exact ⟨rfl, hrest⟩
  · rcases settings_of_line hline with ⟨rfl, rfl⟩
    exact ⟨rfl, hrest.symm⟩

/-!
## Terms
-/

def separator : String := "\x1f"

/--
Where one of the known terms goes on with the separator after a term of another
list, that term is known as well.
-/
def Respects (known other : List String) : Prop :=
  forall term more, term ∈ other -> term ++ separator ++ more ∈ known -> term ∈ known

/-- In ascending lists that agree up to some place, neither goes on beyond the other there. -/
theorem not_continued {before ts us : List String} {t more : String}
    (hts : (before ++ t :: ts).Pairwise (· < ·))
    (hus : (before ++ (t ++ separator ++ more) :: us).Pairwise (· < ·))
    (hrespects : t ∈ before ++ (t ++ separator ++ more) :: us) : False := by
  have hlt : t < t ++ separator ++ more := by
    rw [String.append_assoc]
    exact TermStatistics.lt_append_of_ne fun hnil => by
      simpa [separator] using congrArg String.toList hnil
  rcases List.mem_append.mp hrespects with hbefore | hafter
  · have := (List.pairwise_append.mp hts).2.2 t hbefore t List.mem_cons_self
    exact String.lt_irrefl t this
  · rcases List.mem_cons.mp hafter with heq | hafter
    · rw [← heq] at hlt
      exact String.lt_irrefl t hlt
    · have := (List.pairwise_cons.mp (List.pairwise_append.mp hus).2.1).1 t hafter
      exact String.lt_irrefl t (String.lt_trans hlt this)

/-!
## Entries
-/

def termBytes (v : Vectorizer) (first : Nat) (terms : List String) : List UInt8 :=
  (terms.zipIdx first).flatMap v.entryBytes

theorem termBytes_cons (v : Vectorizer) (first : Nat) (t : String) (terms : List String) :
    v.termBytes first (t :: terms) = Text.utf8 t.toList ++ 0x1f ::
      (littleEndian 8 first ++ (littleEndian 4 (v.weightBits first) ++
        v.termBytes (first + 1) terms)) := by
  simp [termBytes, entryBytes, Text.bytes]

theorem termBytes_cons_ne_nil (v : Vectorizer) (first : Nat) (t : String) (terms : List String) :
    v.termBytes first (t :: terms) ≠ [] := by
  rw [termBytes_cons]
  simp

theorem continued_of_toList {t u : String} {more : List Char}
    (h : u.toList = t.toList ++ '\x1f' :: more) : u = t ++ separator ++ String.ofList more := by
  apply String.toList_injective
  rw [h, String.toList_append, String.toList_append, String.toList_ofList, List.append_assoc]
  rfl

/--
Terms with the same bytes are the same, and so are the weights of their columns.
The terms before them, which agree, leave no room for a term that another one
goes on with.
-/
theorem terms_of_bytes {v w : Vectorizer} {before ts us : List String}
    (hts : (before ++ ts).Pairwise (· < ·)) (hus : (before ++ us).Pairwise (· < ·))
    (hv : Respects (before ++ ts) (before ++ us)) (hw : Respects (before ++ us) (before ++ ts))
    (h : v.termBytes before.length ts = w.termBytes before.length us) :
    ts = us ∧ forall column, before.length ≤ column -> column < before.length + ts.length ->
      v.weightBits column = w.weightBits column := by
  induction ts generalizing before us with
  | nil =>
      cases us with
      | nil =>
          refine ⟨rfl, fun column hle hlt => ?_⟩
          rw [List.length_nil] at hlt
          omega
      | cons u us => exact absurd h.symm (termBytes_cons_ne_nil w _ u us)
  | cons t ts ih =>
      cases us with
      | nil => exact absurd h (termBytes_cons_ne_nil v _ t ts)
      | cons u us =>
          rw [termBytes_cons, termBytes_cons] at h
          rcases @Text.marked_cases '\x1f' 0x1f rfl _ _ _ _ h with ⟨hsame, htail⟩ |
            ⟨more, hmore⟩ | ⟨more, hmore⟩
          · have hterm := String.toList_injective hsame
            subst hterm
            have hweights := List.append_cancel_left htail
            rcases List.append_inj hweights (by rw [length_littleEndian, length_littleEndian]) with
              ⟨hweight, hrest⟩
            have hshift : (before ++ [t]).length = before.length + 1 := by simp
            have hreassoc : forall xs : List String, before ++ t :: xs = before ++ [t] ++ xs := by
              simp
            rw [hreassoc ts, hreassoc us] at hv hw
            rw [hreassoc] at hts hus
            rw [← hshift] at hrest
            rcases ih hts hus hv hw hrest with ⟨hterms, hbits⟩
            refine ⟨by rw [hterms], fun column hle hlt => ?_⟩
            rcases Nat.lt_or_eq_of_le hle with hlater | rfl
            · rw [List.length_cons] at hlt
              exact hbits column (by omega) (by omega)
            · exact littleEndian_inj (v.weightBits_lt _) (w.weightBits_lt _) hweight
          · rw [continued_of_toList hmore] at hus hw
            exact (not_continued hts hus (hw t (String.ofList more) (by simp) (by simp))).elim
          · rw [continued_of_toList hmore] at hts hv
            exact (not_continued hus hts (hv u (String.ofList more) (by simp) (by simp))).elim

/-!
## Layouts
-/

theorem layout_eq {v : Vectorizer} (h : v.Ranked) :
    v.layout = Text.bytes (settingsLine v.settings) ++ (v.termBytes 0 v.vocabulary.terms ++
      Text.bytes (",".intercalate Structure.names)) := by
  rw [layout, h.entries_eq, List.append_assoc]
  rfl

theorem parts_of_layout {v w : Vectorizer} (hv : v.Ranked) (hw : w.Ranked)
    (h : v.layout = w.layout) : v.settings = w.settings ∧
      v.termBytes 0 v.vocabulary.terms = w.termBytes 0 w.vocabulary.terms := by
  rw [layout_eq hv, layout_eq hw] at h
  rcases settings_of_bytes h with ⟨hsettings, hrest⟩
  exact ⟨hsettings, List.append_cancel_right hrest⟩

theorem ascending_terms (v : Vocabulary) : v.terms.Pairwise (· < ·) :=
  List.pairwise_map.mpr v.ascending

theorem length_terms {v : Vectorizer} (h : v.Ranked) :
    v.weights.size = v.vocabulary.terms.length := by
  rw [h.size_weights, Vocabulary.terms, List.length_map, Vocabulary.size]

theorem vocabulary_of_terms {v w : Vectorizer} (hv : v.Ranked) (hw : w.Ranked)
    (h : v.vocabulary.terms = w.vocabulary.terms) : v.vocabulary = w.vocabulary := by
  have hentries := hv.entries_eq
  rw [h, ← hw.entries_eq] at hentries
  cases hvocabulary : v.vocabulary
  cases hvocabulary' : w.vocabulary
  rw [hvocabulary, hvocabulary'] at hentries
  congr

theorem weights_of_bits {v w : Vectorizer} (hsize : v.weights.size = w.weights.size)
    (h : forall column, column < v.weights.size -> v.weightBits column = w.weightBits column) :
    v.weights.map Float32.toBits = w.weights.map Float32.toBits := by
  apply Array.ext
  · rw [Array.size_map, Array.size_map, hsize]
  · intro column hcolumn hcolumn'
    rw [Array.size_map] at hcolumn hcolumn'
    have hbits := h column hcolumn
    rw [weightBits, weightBits, Array.getElem?_eq_getElem hcolumn,
      Array.getElem?_eq_getElem hcolumn'] at hbits
    rw [Array.getElem_map, Array.getElem_map]
    exact UInt32.toNat_inj.mp hbits

theorem vocabulary_of_layout {v w : Vectorizer} (hv : v.Ranked) (hw : w.Ranked)
    (h : v.layout = w.layout) (hrespects : Respects v.vocabulary.terms w.vocabulary.terms)
    (hrespects' : Respects w.vocabulary.terms v.vocabulary.terms) :
    v.vocabulary = w.vocabulary ∧
      v.weights.map Float32.toBits = w.weights.map Float32.toBits := by
  rcases @terms_of_bytes v w [] _ _ (ascending_terms v.vocabulary) (ascending_terms w.vocabulary)
    hrespects hrespects' (parts_of_layout hv hw h).2 with ⟨hterms, hbits⟩
  refine ⟨vocabulary_of_terms hv hw hterms, weights_of_bits ?_ ?_⟩
  · rw [length_terms hv, length_terms hw]
    exact congrArg List.length hterms
  · intro column hcolumn
    rw [length_terms hv] at hcolumn
    exact hbits column (Nat.zero_le _) (by rwa [List.length_nil, Nat.zero_add])

theorem respects_of_fit [Logarithm] {s : VectorizerSettings} {documents others : List String}
    {v w : Vectorizer} (hv : fit s documents = .ok v) (hw : fit s others = .ok w) :
    Respects v.vocabulary.terms w.vocabulary.terms := by
  intro term more hterm hlong
  rw [String.append_assoc] at hlong
  exact mem_terms_of_append hv hlong (admits_of_fit hw hterm).1

/-!
## Terms with separators
-/

def whole : Vectorizer where
  settings := { maxFeatures := 2, leastWindow := 15, mostWindow := 15, lowercase := false }
  vocabulary :=
    ⟨[("aaaaaaaaaaaaaaa", 0), ("b\x1f\x00\x00\x00\x00\x00\x00\x00\x00D-\x10@c", 1)],
      by decide +kernel⟩
  weights := #[.ofBits 0x40102d44, .ofBits 0x40102d44]

def shifted : Vectorizer where
  settings := { maxFeatures := 2, leastWindow := 15, mostWindow := 15, lowercase := false }
  vocabulary :=
    ⟨[("aaaaaaaaaaaaaaa\x1f\x00\x00\x00\x00\x00\x00\x00\x00D-\x10@b", 0), ("c", 1)],
      by decide +kernel⟩
  weights := #[.ofBits 0x40102d44, .ofBits 0x40102d44]

theorem ranked_whole : whole.Ranked :=
  ⟨rfl, rfl⟩

theorem ranked_shifted : shifted.Ranked :=
  ⟨rfl, rfl⟩

theorem layout_shifted : whole.layout = shifted.layout := by
  have hentries : whole.vocabulary.entries.flatMap whole.entryBytes =
      shifted.vocabulary.entries.flatMap shifted.entryBytes := by
    decide +kernel
  rw [layout, layout, hentries]
  rfl

theorem vocabulary_shifted : whole.vocabulary ≠ shifted.vocabulary := by
  intro heq
  have hentries := congrArg Vocabulary.entries heq
  revert hentries
  decide +kernel

/-!
## Layouts with the same bytes
-/

/--
Two layouts with the same bytes have the same settings.  They are the same
altogether, the terms with their columns and the bits of the weights, exactly if
no term of either one goes on with the separator after a term of the other one
that it does not know itself.  Layouts of fitted vectorizers always are.
-/
theorem layout_determines [Logarithm] :
    (forall v w : Vectorizer, v.Ranked -> w.Ranked -> v.layout = w.layout ->
      v.settings = w.settings ∧
      ((v.vocabulary = w.vocabulary ∧
          v.weights.map Float32.toBits = w.weights.map Float32.toBits) ↔
        Respects v.vocabulary.terms w.vocabulary.terms ∧
          Respects w.vocabulary.terms v.vocabulary.terms)) ∧
    forall s s' documents others v w, fit s documents = .ok v -> fit s' others = .ok w ->
      v.layout = w.layout -> v.settings = w.settings ∧ v.vocabulary = w.vocabulary ∧
        v.weights.map Float32.toBits = w.weights.map Float32.toBits := by
  constructor
  · intro v w hv hw h
    refine ⟨(parts_of_layout hv hw h).1, ?_, ?_⟩
    · rintro ⟨hvocabulary, _⟩
      rw [hvocabulary]
      exact ⟨fun _ _ hterm _ => hterm, fun _ _ hterm _ => hterm⟩
    · rintro ⟨hrespects, hrespects'⟩
      exact vocabulary_of_layout hv hw h hrespects hrespects'
  · intro s s' documents others v w hv hw h
    have hranked := ranked_of_fit hv
    have hranked' := ranked_of_fit hw
    have hsettings := (parts_of_layout hranked hranked' h).1
    have hsame := hsettings
    rw [settings_of_fit hv, settings_of_fit hw] at hsame
    subst hsame
    exact ⟨hsettings, vocabulary_of_layout hranked hranked' h (respects_of_fit hv hw)
      (respects_of_fit hw hv)⟩

theorem layout_determines_shifted :
    (whole.settings = shifted.settings ∧
      ¬ (Respects whole.vocabulary.terms shifted.vocabulary.terms ∧
        Respects shifted.vocabulary.terms whole.vocabulary.terms)) ∧
    ∃ v w, fit {} ["ab", "b"] = .ok v ∧ fit {} ["b", "ab"] = .ok w ∧
      v.vocabulary = w.vocabulary := by
  constructor
  · rcases layout_determines.1 whole shifted ranked_whole ranked_shifted layout_shifted with
      ⟨hsettings, hsame⟩
    refine ⟨hsettings, fun hrespects => ?_⟩
    exact vocabulary_shifted (hsame.mpr hrespects).1
  · have hv := @fit_eq_ok _ {} ["ab", "b"] rfl (List.cons_ne_nil _ _)
    have hw := @fit_eq_ok _ {} ["b", "ab"] rfl (List.cons_ne_nil _ _)
    have hsame := TermStatistics.ofDocuments_perm (s := {}) (by decide)
      (List.Perm.swap "ab" "b" [])
    rw [hsame] at hw
    exact ⟨_, _, hv, hw, (layout_determines.2 _ _ _ _ _ _ hv hw rfl).2.1⟩

/-- The bytes of a layout do not tell all vocabularies apart. -/
theorem layout_ambiguous :
    whole.Ranked ∧ shifted.Ranked ∧ whole.layout = shifted.layout ∧
      whole.vocabulary ≠ shifted.vocabulary :=
  ⟨ranked_whole, ranked_shifted, layout_shifted, vocabulary_shifted⟩

end Vectorizer
end Polyglot
