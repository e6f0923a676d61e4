import ApiStubs.MethodName
import ApiStubs.Proofs.Character.Case
import Mathlib.Data.List.Forall2

/-! # Method names from segments

A method name is put together segment by segment. So two routes with a slash between them have the
name of the first one followed by what the second one adds to its verb. Slashes at an end of a route
or beside another slash leave its segments as they are. With single slashes between them the
segments are the route again, slashes aside. They determine the name, and no slash is left in it.
-/

namespace ApiStubs.MethodName

variable {p r s w : List Char} {ws : List (List Char)} {route path : String}

section Slashes

/-- Routes that differ only in slashes at an end or beside another slash. -/
inductive SlashesAside : List Char → List Char → Prop where
  | refl (r : List Char) : SlashesAside r r
  | symm {r s : List Char} : SlashesAside r s → SlashesAside s r
  | trans {r s t : List Char} : SlashesAside r s → SlashesAside s t → SlashesAside r t
  | leading (r : List Char) : SlashesAside ('/' :: r) r
  | trailing (r : List Char) : SlashesAside (r ++ ['/']) r
  | repeated (r s : List Char) : SlashesAside (r ++ '/' :: '/' :: s) (r ++ '/' :: s)

/-- Behind a slash the differences stay the same ones: a slash at the start is one beside it. -/
theorem SlashesAside.behind (h : SlashesAside r s) (p : List Char) :
    SlashesAside (p ++ '/' :: r) (p ++ '/' :: s) := by
  induction h with
  | refl r => exact .refl _
  | symm _ ih => exact .symm ih
  | trans _ _ ih ih' => exact .trans ih ih'
  | leading r => exact .repeated p r
  | trailing r => simpa using SlashesAside.trailing (p ++ '/' :: r)
  | repeated r s => simpa using SlashesAside.repeated (p ++ '/' :: r) s

/-- The route with given pieces and single slashes between them. -/
def routeOf (pieces : List (List Char)) : List Char :=
  ['/'].intercalate pieces

@[simp] theorem routeOf_nil : routeOf [] = [] := rfl

@[simp] theorem routeOf_singleton (w : List Char) : routeOf [w] = w :=
  List.intercalate_singleton

theorem routeOf_cons (h : ws ≠ []) (w : List Char) :
    routeOf (w :: ws) = w ++ '/' :: routeOf ws := by
  rw [routeOf, List.intercalate_cons_of_ne_nil h, List.append_assoc]
  rfl

theorem routeOf_splitOn (r : List Char) : routeOf (Text.splitOn '/' r) = r := by
  rw [routeOf, Text.splitOn_eq, List.intercalate_splitOn]

/-- An empty piece is a slash at an end or beside another one. -/
theorem slashesAside_routeOf (pieces : List (List Char)) :
    SlashesAside (routeOf pieces) (routeOf (pieces.filter (!·.isEmpty))) := by
  induction pieces with
  | nil => exact .refl _
  | cons w pieces ih =>
    by_cases hlast : pieces = []
    · subst hlast
      cases w <;> exact .refl _
    · rw [routeOf_cons hlast]
      apply (ih.behind w).trans
      cases w with
      | nil => exact .leading _
      | cons c w =>
        rw [List.filter_cons_of_pos rfl]
        -- the slash behind this piece is the last one if only empty pieces follow
        by_cases hnil : pieces.filter (!·.isEmpty) = []
        · rw [hnil, routeOf_nil, routeOf_singleton]
          exact .trailing (c :: w)
        · rw [routeOf_cons hnil]
          exact .refl _

end Slashes

section Segments

theorem segments_append_slash (r s : List Char) :
    segments (r ++ '/' :: s) = segments r ++ segments s := by
  rw [segments, Text.splitOn_append_cons, List.filter_append]
  rfl

theorem segments_slash (r : List Char) : segments ('/' :: r) = segments r :=
  segments_append_slash [] r

theorem SlashesAside.segments_eq (h : SlashesAside r s) : segments r = segments s := by
  induction h with
  | refl r => rfl
  | symm _ ih => exact ih.symm
  | trans _ _ ih ih' => exact ih.trans ih'
  | leading r => exact segments_slash r
  | trailing r => exact (segments_append_slash r []).trans (List.append_nil _)
  | repeated r s => rw [segments_append_slash, segments_append_slash, segments_slash]

/-- A text that stands between slashes: it is not empty and holds none. -/
def IsPiece (w : List Char) : Prop :=
  w ≠ [] ∧ '/' ∉ w

theorem isPiece_of_mem_segments (h : w ∈ segments r) : IsPiece w := by
  obtain ⟨hw, hne⟩ := List.mem_filter.mp h
  exact ⟨by simpa using hne, Text.not_mem_of_mem_splitOn hw⟩

theorem segments_of_isPiece (h : IsPiece w) : segments w = [w] := by
  rw [segments, Text.splitOn_of_not_mem h.2]
  simp [h.1]

theorem segments_routeOf (h : ∀ w ∈ ws, IsPiece w) : segments (routeOf ws) = ws := by
  induction ws with
  | nil => rfl
  | cons w ws ih =>
    obtain ⟨hw, hws⟩ := List.forall_mem_cons.mp h
    by_cases hlast : ws = []
    · rw [hlast, routeOf_singleton, segments_of_isPiece hw]
    · rw [routeOf_cons hlast, segments_append_slash, segments_of_isPiece hw, ih hws]
      rfl

/-- The segments of a route: no one is empty or holds a slash, and with single slashes between them
they are the route, slashes aside. -/
structure AreSegments (r : List Char) (ws : List (List Char)) : Prop where
  pieces : ∀ w ∈ ws, IsPiece w
  route : SlashesAside r (routeOf ws)

theorem areSegments_segments (r : List Char) : AreSegments r (segments r) where
  pieces _ := isPiece_of_mem_segments
  route := by
    have hpieces := slashesAside_routeOf (Text.splitOn '/' r)
    rwa [routeOf_splitOn] at hpieces

/-- Every route has one list of segments. -/
theorem areSegments_iff : AreSegments r ws ↔ ws = segments r := by
  constructor
  · intro h
    rw [h.route.segments_eq, segments_routeOf h.pieces]
  · rintro rfl
    exact areSegments_segments r

end Segments

section Parts

/-- What a segment adds to a name: a name in braces is announced, and all start with a capital. -/
inductive Adds : List Char → List Char → Prop where
  | placeholder (w : List Char) :
      Adds ('\x7b' :: (w ++ ['\x7d'])) ('B' :: 'y' :: capitalized w)
  | literal {w : List Char} :
      (∀ u, w ≠ '\x7b' :: (u ++ ['\x7d'])) → Adds w (capitalized w)

theorem isPlaceholder_iff : isPlaceholder w = true ↔ ∃ u, w = '\x7b' :: (u ++ ['\x7d']) := by
  rw [isPlaceholder, Bool.and_eq_true, beq_iff_eq, beq_iff_eq]
  constructor
  · rintro ⟨hhead, hlast⟩
    obtain ⟨rest, rfl⟩ := List.head?_eq_some_iff.mp hhead
    obtain ⟨u, hu⟩ := List.getLast?_eq_some_iff.mp hlast
    -- one brace alone cannot be both, so something stands before the last one
    cases u with
    | nil => cases hu
    | cons c u =>
      cases hu
      exact ⟨u, rfl⟩
  · rintro ⟨u, rfl⟩
    exact ⟨rfl, by rw [← List.cons_append, List.getLast?_concat]⟩

theorem adds_part (w : List Char) : Adds w (part w) := by
  unfold part
  split
  · next h =>
    obtain ⟨u, rfl⟩ := isPlaceholder_iff.mp h
    rw [List.drop_one, List.tail_cons, List.dropLast_concat]
    exact .placeholder u
  · next h =>
    apply Adds.literal
    rintro u rfl
    exact h (isPlaceholder_iff.mpr ⟨u, rfl⟩)

theorem slash_not_mem_capitalized (h : '/' ∉ w) : '/' ∉ capitalized w := by
  cases w with
  | nil => exact h
  | cons c w =>
    obtain ⟨hc, hw⟩ := List.ne_and_not_mem_of_not_mem_cons h
    rw [capitalized, List.mem_append, not_or]
    exact ⟨Character.slash_not_mem_upper hc.symm, hw⟩

theorem Adds.slash_not_mem (h : Adds w p) (hw : '/' ∉ w) : '/' ∉ p := by
  cases h with
  | placeholder u =>
    have hu : '/' ∉ u := fun hmem => hw (by simp [hmem])
    simpa using slash_not_mem_capitalized hu
  | literal _ => exact slash_not_mem_capitalized hw

end Parts

section Names

theorem synthesize_append_slash (v : Verb) (route path : String) :
    synthesize v (route ++ "/" ++ path) =
      synthesize v route ++ String.ofList ((segments path.toList).flatMap part) := by
  have hlist : (route ++ "/" ++ path).toList = route.toList ++ '/' :: path.toList := by
    simp
  rw [synthesize, hlist, segments_append_slash, List.flatMap_append, String.ofList_append,
    ← String.append_assoc, synthesize]

theorem synthesize_eq_of_slashesAside (v : Verb) (h : SlashesAside route.toList path.toList) :
    synthesize v route = synthesize v path := by
  rw [synthesize, h.segments_eq, synthesize]

theorem exists_adds (v : Verb) (route : String) :
    ∃ ws parts, (∀ vs, AreSegments route.toList vs ↔ vs = ws) ∧ List.Forall₂ Adds ws parts ∧
      synthesize v route = v.canonical ++ String.ofList parts.flatten := by
  have hadds : List.Forall₂ Adds (segments route.toList) ((segments route.toList).map part) :=
    List.forall₂_map_right_iff.mpr (List.forall₂_same.mpr fun w _ => adds_part w)
  exact ⟨_, _, fun vs => areSegments_iff, hadds, rfl⟩

theorem slash_not_mem_synthesize (v : Verb) (route : String) :
    '/' ∉ (synthesize v route).toList := by
  have hverb : '/' ∉ v.canonical.toList := by cases v <;> decide
  rw [synthesize, String.toList_append, String.toList_ofList, List.mem_append, not_or]
  refine ⟨hverb, ?_⟩
  intro hmem
  obtain ⟨w, hw, hpart⟩ := List.mem_flatMap.mp hmem
  exact (adds_part w).slash_not_mem (isPiece_of_mem_segments hw).2 hpart

/-- A method name is its verb and what the segments of the route add to it. So a slash between two
routes joins their names, slashes at an end or beside another slash change nothing, routes with the
same segments have the same name, and no slash is left in it. -/
theorem synthesize_compositional (v : Verb) :
    (∀ route path, ∃ rest, synthesize v path = v.canonical ++ rest ∧
      synthesize v (route ++ "/" ++ path) = synthesize v route ++ rest) ∧
    (∀ route path, SlashesAside route.toList path.toList →
      synthesize v route = synthesize v path) ∧
    (∀ route path ws, AreSegments route.toList ws → AreSegments path.toList ws →
      synthesize v route = synthesize v path) ∧
    (∀ route, ∃ ws parts, (∀ vs, AreSegments route.toList vs ↔ vs = ws) ∧
      List.Forall₂ Adds ws parts ∧
      synthesize v route = v.canonical ++ String.ofList parts.flatten) ∧
    ∀ route, '/' ∉ (synthesize v route).toList := by
  refine ⟨?_, ?_, ?_, exists_adds v, slash_not_mem_synthesize v⟩
  · intro route path
    exact ⟨_, rfl, synthesize_append_slash v route path⟩
  · intro route path h
    exact synthesize_eq_of_slashesAside v h
  · intro route path ws hroute hpath
    exact synthesize_eq_of_slashesAside v (hroute.route.trans hpath.route.symm)

/-- A route with slashes at both ends and beside one another. The capitals in its name are longer
than the letters that they stand for. -/
theorem synthesize_compositional_slashes :
    SlashesAside "//ßa///\x7bßb\x7d/".toList "/ßa/\x7bßb\x7d".toList ∧
      synthesize .get "//ßa///\x7bßb\x7d/" = synthesize .get "/ßa/\x7bßb\x7d" ∧
      AreSegments "/ßa/\x7bßb\x7d".toList ["ßa".toList, "\x7bßb\x7d".toList] ∧
      AreSegments "ßa/\x7bßb\x7d".toList ["ßa".toList, "\x7bßb\x7d".toList] ∧
      synthesize .get "/ßa/\x7bßb\x7d" = synthesize .get "ßa/\x7bßb\x7d" ∧
      synthesize .get "ßa/\x7bßb\x7d" = "GetSSaBySSb" := by
  have hmany : AreSegments "//ßa///\x7bßb\x7d/".toList ["ßa".toList, "\x7bßb\x7d".toList] :=
    areSegments_iff.mpr (by decide)
  have hroute : AreSegments "/ßa/\x7bßb\x7d".toList ["ßa".toList, "\x7bßb\x7d".toList] :=
    areSegments_iff.mpr (by decide)
  have hpath : AreSegments "ßa/\x7bßb\x7d".toList ["ßa".toList, "\x7bßb\x7d".toList] :=
    areSegments_iff.mpr (by decide)
  have hslashes := hmany.route.trans hroute.route.symm
  obtain ⟨-, haside, hsame, -⟩ := synthesize_compositional .get
  exact ⟨hslashes, haside _ _ hslashes, hroute, hpath, hsame _ _ _ hroute hpath,
    by decide +kernel⟩

end Names

end ApiStubs.MethodName
