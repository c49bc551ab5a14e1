import Mathlib.Data.List.Nodup
import Mathlib.Data.Prod.Lex
import Mathlib.Data.String.Basic
import RankedRelay.Config.Basic

namespace RankedRelay

namespace Text

def pieces (sep : Char) (s : String) : List String := (s.split sep).toList.map (·.copy)

theorem pieces_intercalate {sep : Char} {ss : List String} (hne : ss ≠ [])
    (h : ∀ s ∈ ss, sep ∉ s.toList) : pieces sep ((String.singleton sep).intercalate ss) = ss := by
  rw [pieces, String.toList_split_intercalate h, if_neg hne]

def Avoids (s : String) (chs : List Char) : Prop := ∀ ch ∈ chs, ch ∉ s.toList

instance (s : String) (chs : List Char) : Decidable (Avoids s chs) :=
  List.decidableBAll (· ∉ s.toList) chs

end Text

namespace LogConfig

variable {c c' : LogConfig} {cs ds : List (String × String)}
  {levels levels' : String → Option String}

/-- Whether a list has the entries of a map, each once, in whatever order. -/
structure Enumerates (cs : List (String × String)) (levels : String → Option String) : Prop where
  distinct : (cs.map Prod.fst).Nodup
  mem_iff : ∀ name level, (name, level) ∈ cs ↔ levels name = some level

namespace Enumerates

theorem nodup (h : Enumerates cs levels) : cs.Nodup := List.Nodup.of_map _ h.distinct

theorem of_perm (h : Enumerates cs levels) (hperm : cs.Perm ds) : Enumerates ds levels := by
  refine ⟨(hperm.map Prod.fst).nodup_iff.mp h.distinct, fun name level => ?_⟩
  rw [← hperm.mem_iff, h.mem_iff]

theorem perm (h : Enumerates cs levels) (h' : Enumerates ds levels) : cs.Perm ds := by
  rw [List.perm_ext_iff_of_nodup h.nodup h'.nodup]
  intro p
  exact (h.mem_iff p.1 p.2).trans (h'.mem_iff p.1 p.2).symm

theorem unique (h : Enumerates cs levels) (h' : Enumerates cs levels') : levels = levels' := by
  funext name
  apply Option.ext
  intro level
  rw [← h.mem_iff, ← h'.mem_iff]

end Enumerates

/-- Whether a list has the entries of a map, by name and then by level. -/
structure Sorts (cs : List (String × String)) (levels : String → Option String) : Prop
    extends Enumerates cs levels where
  ascending : cs.Pairwise (Prod.Lex (· < ·) (· < ·))

/-- The entries of a map can be sorted in one way only. -/
theorem Sorts.unique (h : Sorts cs levels) (h' : Sorts ds levels) : cs = ds := by
  have hperm : cs.Perm ds := h.perm h'.toEnumerates
  refine hperm.eq_of_pairwise (fun a b _ _ hab hba => ?_) h.ascending h'.ascending
  have hlt : toLex a < toLex b := hab
  exact absurd hba hlt.asymm

theorem enumerates_lookup (h : (cs.map Prod.fst).Nodup) : Enumerates cs (cs.lookup ·) := by
  refine ⟨h, fun name level => ?_⟩
  induction cs with
  | nil => simp
  | cons p cs ih =>
    obtain ⟨key, value⟩ := p
    obtain ⟨hfresh, hrest⟩ := List.nodup_cons.mp h
    rw [List.mem_cons, Prod.mk.injEq, ih hrest, List.lookup_cons]
    by_cases hname : name = key
    · subst hname
      have hnone : cs.lookup name ≠ some level := fun hlookup =>
        hfresh (List.mem_map.mpr ⟨(name, level), (ih hrest).mpr hlookup, rfl⟩)
      simp [hnone, eq_comm]
    · rw [beq_false_of_ne hname]
      simp [hname]

theorem inOrder_perm (cs : List (String × String)) : (inOrder cs).Perm cs :=
  List.mergeSort_perm cs _

theorem inOrder_sorted (cs : List (String × String)) :
    (inOrder cs).Pairwise fun a b => toLex a ≤ toLex b := by
  -- The test by which the sort compares is that of the lexicographic order.
  have hle : ∀ a b : String × String,
      (a.1 < b.1 || (a.1 == b.1 && a.2 ≤ b.2)) = true ↔ toLex a ≤ toLex b := by
    intro a b
    simp [Prod.Lex.toLex_le_toLex]
  refine (List.pairwise_mergeSort (fun a b c hab hbc => ?_) (fun a b => ?_) cs).imp (hle _ _).mp
  · exact (hle a c).mpr (((hle a b).mp hab).trans ((hle b c).mp hbc))
  · rw [Bool.or_eq_true, hle, hle]
    exact le_total _ _

theorem inOrder_sorts (h : Enumerates cs levels) : Sorts (inOrder cs) levels := by
  have hordered := h.of_perm (inOrder_perm cs).symm
  refine ⟨hordered, (inOrder_sorted cs).imp₂ (fun a b hle hne => ?_) hordered.nodup⟩
  exact lt_of_le_of_ne hle fun heq => hne (toLex.injective heq)

theorem perm_of_inOrder_eq (h : inOrder cs = inOrder ds) : cs.Perm ds := by
  have hperm : (inOrder cs).Perm ds := h ▸ inOrder_perm ds
  exact (inOrder_perm cs).symm.trans hperm

def assignment (p : String × String) : String :=
  p.1.map (fun ch => if ch = '-' then '_' else ch) ++ "=" ++ p.2

theorem directive_eq (p : String × String) : directive p = "," ++ assignment p := by
  apply String.toList_injective
  simp [directive, assignment, moduleName]

theorem append_join_directive (level : String) (cs : List (String × String)) :
    level ++ String.join (cs.map directive) = ",".intercalate (level :: cs.map assignment) := by
  induction cs generalizing level with
  | nil => simp
  | cons p cs ih =>
    rw [List.map_cons, List.map_cons, String.join_cons, String.intercalate_cons_cons, directive_eq,
      ← ih, String.append_assoc, String.append_assoc]

theorem directives_eq (c : LogConfig) :
    c.directives = ",".intercalate (c.level :: (inOrder c.components).map assignment) :=
  append_join_directive c.level (inOrder c.components)

def component? (s : String) : Option (String × String) :=
  match Text.pieces '=' s with
  | [name, level] => some (name, level)
  | _ => none

/-- The level and the components that are written in a text. -/
def written? (s : String) : Option (String × List (String × String)) :=
  match Text.pieces ',' s with
  | [] => none
  | level :: rest => (rest.mapM component?).map (level, ·)

/-- Whether no text of a configuration has a separator, nor a name a hyphen. -/
structure IsPlain (c : LogConfig) : Prop where
  level : Text.Avoids c.level [',', '=']
  names : ∀ p ∈ c.components, Text.Avoids p.1 [',', '=', '-']
  levels : ∀ p ∈ c.components, Text.Avoids p.2 [',', '=']

section

variable {p : String × String} (hname : Text.Avoids p.1 [',', '=', '-'])
  (hlevel : Text.Avoids p.2 [',', '='])

include hname in
theorem assignment_of_plain : assignment p = p.1 ++ "=" ++ p.2 := by
  have hsame : p.1.toList.map (fun ch => if ch = '-' then '_' else ch) = p.1.toList := by
    refine (List.map_congr_left fun ch hch => if_neg fun heq => ?_).trans (List.map_id' _)
    exact hname '-' (by simp) (heq ▸ hch)
  rw [assignment, String.toList_injective (String.toList_map.trans hsame)]

include hname hlevel

theorem not_mem_assignment : ',' ∉ (assignment p).toList := by
  rw [assignment_of_plain hname, String.toList_append, String.toList_append]
  simp [hname ',' (by simp), hlevel ',' (by simp)]

theorem component?_assignment : component? (assignment p) = some p := by
  have hjoin : assignment p = "=".intercalate [p.1, p.2] := by
    rw [assignment_of_plain hname, String.intercalate_cons_cons, String.intercalate_singleton]
  have hpieces : Text.pieces '=' (assignment p) = [p.1, p.2] := by
    rw [hjoin]
    refine Text.pieces_intercalate (List.cons_ne_nil _ _) ?_
    simp only [List.forall_mem_cons]
    exact ⟨hname '=' (by simp), hlevel '=' (by simp), nofun⟩
  rw [component?, hpieces]

end

theorem mapM_component?_assignment (h : ∀ p ∈ cs, component? (assignment p) = some p) :
    (cs.map assignment).mapM component? = some cs := by
  induction cs with
  | nil => rfl
  | cons p cs ih =>
    obtain ⟨hp, hcs⟩ := List.forall_mem_cons.mp h
    rw [List.map_cons, List.mapM_cons, hp, ih hcs]
    rfl

theorem written?_directives (h : c.IsPlain) :
    written? c.directives = some (c.level, inOrder c.components) := by
  have hmem : ∀ {p}, p ∈ inOrder c.components → p ∈ c.components := (inOrder_perm _).mem_iff.mp
  have hpieces : Text.pieces ',' c.directives =
      c.level :: (inOrder c.components).map assignment := by
    rw [directives_eq]
    refine Text.pieces_intercalate (List.cons_ne_nil _ _) ?_
    rw [List.forall_mem_cons, List.forall_mem_map]
    exact ⟨h.level ',' (by simp), fun p hp => not_mem_assignment (h.names p (hmem hp))
      (h.levels p (hmem hp))⟩
  have hcomponents := mapM_component?_assignment fun p (hp : p ∈ inOrder c.components) =>
    component?_assignment (h.names p (hmem hp)) (h.levels p (hmem hp))
  simp only [written?, hpieces, hcomponents, Option.map_some]

theorem perm_of_directives_eq (h : c.IsPlain) (h' : c'.IsPlain)
    (htext : c.directives = c'.directives) :
    c.level = c'.level ∧ c.components.Perm c'.components := by
  have hread := written?_directives h
  rw [htext, written?_directives h', Option.some.injEq, Prod.mk.injEq] at hread
  exact ⟨hread.1.symm, (perm_of_inOrder_eq hread.2).symm⟩

/-- The filter text is a canonical code for the level and the map of components, in whatever order
the map lists its entries: plain configurations have the same text if and only if these are equal.
The text of any configuration has the level and then each entry of the map once, by the names as
they are given and then by level, with underscores for the hyphens of the names. -/
theorem directives_canonical (h : Enumerates c.components levels)
    (h' : Enumerates c'.components levels') :
    (c.IsPlain → c'.IsPlain →
      (c.directives = c'.directives ↔ c.level = c'.level ∧ levels = levels')) ∧
    ∃ sorted, Sorts sorted levels ∧ (∀ cs, Sorts cs levels → cs = sorted) ∧
      c.directives = ",".intercalate (c.level :: sorted.map assignment) := by
  have hsorts := inOrder_sorts h
  refine ⟨fun hplain hplain' => ⟨fun htext => ?_, ?_⟩, inOrder c.components, hsorts,
    fun cs hcs => hcs.unique hsorts, directives_eq c⟩
  · obtain ⟨hlevel, hperm⟩ := perm_of_directives_eq hplain hplain' htext
    exact ⟨hlevel, (h.of_perm hperm).unique h'⟩
  · rintro ⟨hlevel, rfl⟩
    rw [directives_eq, directives_eq, hlevel, hsorts.unique (inOrder_sorts h')]

theorem directives_canonical_shuffled :
    let c : LogConfig := ⟨"warn", [("relay", "trace"), ("http", "debug")], false⟩
    let shuffled : LogConfig := ⟨"warn", [("http", "debug"), ("relay", "trace")], true⟩
    let swapped : LogConfig := ⟨"warn", [("http", "trace"), ("relay", "debug")], false⟩
    let hyphened : LogConfig := ⟨"warn", [("web_api", "trace"), ("web-api", "debug")], false⟩
    c.directives = shuffled.directives ∧ c.directives ≠ swapped.directives ∧
      hyphened.directives = "warn,web_api=debug,web_api=trace" := by
  intro c shuffled swapped hyphened
  have hc : Enumerates c.components (c.components.lookup ·) := enumerates_lookup (by decide)
  have hshuffled : Enumerates shuffled.components _ := hc.of_perm (.swap ..)
  have hswapped : Enumerates swapped.components (swapped.components.lookup ·) :=
    enumerates_lookup (by decide)
  have hhyphened : Enumerates hyphened.components (hyphened.components.lookup ·) :=
    enumerates_lookup (by decide)
  have hplain : c.IsPlain := ⟨by decide, by decide, by decide⟩
  have hplainShuffled : shuffled.IsPlain := ⟨by decide, by decide, by decide⟩
  have hplainSwapped : swapped.IsPlain := ⟨by decide, by decide, by decide⟩
  refine ⟨?_, fun htext => ?_, ?_⟩
  · exact ((directives_canonical hc hshuffled).1 hplain hplainShuffled).mpr ⟨rfl, rfl⟩
  · obtain ⟨-, hlevels⟩ := ((directives_canonical hc hswapped).1 hplain hplainSwapped).mp htext
    exact absurd (congrFun hlevels "http") (by decide)
  · obtain ⟨sorted, -, hunique, htext⟩ := (directives_canonical hhyphened hhyphened).2
    have hsorted := hunique [("web-api", "debug"), ("web_api", "trace")]
      ⟨hhyphened.of_perm (.swap ..), by decide⟩
    rw [htext, ← hsorted]
    apply String.toList_injective
    simp [assignment, hyphened]

/-- Configurations that are not plain may have the same text. -/
example : directives ⟨"info", [("web-api", "debug")], false⟩ =
    directives ⟨"info", [("web_api", "debug")], false⟩ := by
  cbv

end LogConfig

end RankedRelay
