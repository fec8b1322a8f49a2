import ApiStyle.Proofs.Insertion

/-! Which segments of a path have to follow its convention. All of them are checked, in order, but those that are empty
and those that reach from an opening to a closing brace. The latter spares placeholders, and with them whatever else
stands between such braces: the pass reports every literal segment of a path exactly if each of its segments between
braces is one placeholder. -/

namespace ApiStyle

variable {α β : Type}

/-- An opening brace, a name without braces and a closing brace, and nothing else. -/
def IsWholePlaceholder (segment : List Char) : Prop :=
  ∃ name, segment = '\x7b' :: name ++ ['\x7d'] ∧ '\x7b' ∉ name ∧ '\x7d' ∉ name

theorem isWholePlaceholder_iff {segment : List Char} : IsWholePlaceholder segment ↔
    isBraced segment = true ∧ segment.count '\x7b' = 1 ∧ segment.count '\x7d' = 1 := by
  have counts (name : List Char) : ('\x7b' ∉ name ∧ '\x7d' ∉ name) ↔
      ('\x7b' :: name ++ ['\x7d']).count '\x7b' = 1 ∧ ('\x7b' :: name ++ ['\x7d']).count '\x7d' = 1 := by
    simp [List.count_append, List.count_eq_zero]
  rw [isBraced_iff]
  constructor
  · rintro ⟨name, rfl, plain⟩
    exact ⟨⟨name, rfl⟩, (counts name).mp plain⟩
  · rintro ⟨⟨name, rfl⟩, once⟩
    exact ⟨name, rfl, (counts name).mpr once⟩

instance : DecidablePred IsWholePlaceholder := fun _ => decidable_of_iff _ isWholePlaceholder_iff.symm

namespace Violation

/-- Whether a violation is about a segment of a path. -/
def isAboutSegment (path : String) : Violation → Bool
  | naming _ .path _ (.operation given _) => given = path
  | _ => false

end Violation

open Violation (isAboutSegment)

/-- What there is to report of a path, in order, if no segment is spared but empty ones and those of a kind. -/
def badSegments (spared : List Char → Prop) [DecidablePred spared] (config : Config) (path : String) :
    List Violation :=
  ((path.toList.splitOn '/').filter fun segment =>
    segment ≠ [] ∧ ¬ spared segment ∧ config.pathNaming.accepts (String.ofList segment) = false).map fun segment =>
      .naming (String.ofList segment) .path (.convention config.pathNaming) (.operation path none)

section

variable {spared other : List Char → Prop} [DecidablePred spared] [DecidablePred other] {config : Config} {path : String}

private theorem mem_badSegments {segment : List Char} :
    .naming (String.ofList segment) .path (.convention config.pathNaming) (.operation path none) ∈
        badSegments spared config path ↔
      segment ∈ path.toList.splitOn '/' ∧ segment ≠ [] ∧ ¬ spared segment ∧
        config.pathNaming.accepts (String.ofList segment) = false := by
  simp only [badSegments, List.mem_map, List.mem_filter, decide_eq_true_eq, Violation.naming.injEq, and_true,
    String.ofList_inj, exists_eq_right]

private theorem badSegments_congr (same : ∀ segment ∈ path.toList.splitOn '/', spared segment ↔ other segment) :
    badSegments spared config path = badSegments other config path := by
  unfold badSegments
  congr 1
  apply List.filter_congr
  intro segment member
  simp only [same segment member]

end

private theorem filterMap_unless (items : List α) (spared : α → Bool) (tell : α → β) :
    (items.filterMap fun item => if spared item then none else some (tell item)) =
      (items.filter (!spared ·)).map tell := by
  induction items with
  | nil => rfl
  | cons item rest ih => cases passes : spared item <;> simp [passes, ih]

private theorem checkSegments_eq (config : Config) (path : String) :
    checkSegments config path = badSegments (isBraced · = true) config path := by
  rw [checkSegments, filterMap_unless, literalSegments, Text.pieces_eq_splitOn, List.filter_map, List.map_map,
    List.filter_filter]
  have tests : (fun segment => ((!config.pathNaming.accepts ·) ∘ String.ofList) segment &&
      (!segment.isEmpty && !isBraced segment)) = fun segment => decide (segment ≠ [] ∧ ¬ isBraced segment = true ∧
        config.pathNaming.accepts (String.ofList segment) = false) := by
    funext segment
    cases segment <;> simp [Bool.and_comm]
  rw [tests]
  rfl

private theorem accepts_braced {segment : List Char} (braced : isBraced segment) (convention : Convention) :
    convention.accepts (String.ofList segment) = false := by
  obtain ⟨inner, rfl⟩ := isBraced_iff.mp braced
  rw [Convention.accepts, String.toList_ofList, List.cons_append, Convention.acceptsChars]
  rfl

/-- Braces around several parts spare them all, though no convention accepts a brace. -/
theorem badSegments_eq_iff (config : Config) (path : String) :
    badSegments (isBraced · = true) config path = badSegments IsWholePlaceholder config path ↔
      ∀ segment ∈ path.toList.splitOn '/', isBraced segment → IsWholePlaceholder segment := by
  constructor
  · intro equal segment member braced
    by_contra parts
    have nonempty : segment ≠ [] := by
      rintro rfl
      cases braced
    have due := mem_badSegments.mpr ⟨member, nonempty, parts, accepts_braced braced config.pathNaming⟩
    rw [← equal] at due
    exact (mem_badSegments.mp due).2.2.1 braced
  · intro whole
    apply badSegments_congr
    intro segment member
    exact ⟨whole segment member, fun placeholder => (isWholePlaceholder_iff.mp placeholder).1⟩

private theorem flatMap_of_key {entries : List (String × α)} (distinct : (entries.map Prod.fst).Nodup) {key : String}
    {value : α}
    (member : (key, value) ∈ entries) {find : String × α → List β} (only : ∀ entry, entry.1 ≠ key → find entry = []) :
    entries.flatMap find = find (key, value) := by
  obtain ⟨before, after, rfl⟩ := List.append_of_mem member
  have silent {others : List (String × α)} (absent : key ∉ others.map Prod.fst) : others.flatMap find = [] := by
    apply List.flatMap_eq_nil_iff.mpr
    intro entry inside
    apply only
    rintro rfl
    exact absent (List.mem_map_of_mem inside)
  rw [List.map_append, List.map_cons, List.nodup_middle, List.nodup_cons, List.mem_append, not_or] at distinct
  rw [List.flatMap_append, List.flatMap_cons, silent distinct.1.1, silent distinct.1.2, List.nil_append,
    List.append_nil]

private theorem isAboutSegment_of_badSegment {spared : List Char → Prop} [DecidablePred spared] {config : Config}
    {other : String}
    {violation : Violation} (member : violation ∈ badSegments spared config other) (path : String) :
    violation.isAboutSegment path = decide (other = path) := by
  obtain ⟨segment, _, rfl⟩ := List.mem_map.mp member
  rfl

private theorem not_about_parameter {config : Config} {other : String} {method : Method} {operation : Operation}
    {violation : Violation} (member : violation ∈ checkParameterNames config other method operation) (path : String) :
    violation.isAboutSegment path = false := by
  obtain ⟨parameter, _, found⟩ := List.mem_filterMap.mp member
  obtain ⟨name, _, found⟩ := Option.bind_eq_some_iff.mp found
  split at found
  · cases found
  · obtain rfl := Option.some.inj found
    rfl

private theorem not_about_property {config : Config} {name : String} {schema : Schema} {violation : Violation}
    (member : violation ∈ checkPropertyNames config name schema) (path : String) :
    violation.isAboutSegment path = false := by
  obtain ⟨property, _, found⟩ := List.mem_filterMap.mp member
  dsimp only at found
  split at found
  · cases found
  · obtain rfl := Option.some.inj found
    rfl

private theorem filter_flatMap_eq_nil {entries : List α} {found : α → List β} {keep : β → Bool}
    (none : ∀ entry ∈ entries, ∀ value ∈ found entry, keep value = false) : (entries.flatMap found).filter keep = [] := by
  apply List.filter_eq_nil_iff.mpr
  intro value member
  obtain ⟨entry, inside, member⟩ := List.mem_flatMap.mp member
  rw [none entry inside value member]
  exact Bool.false_ne_true

private theorem filter_checkPathNames (config : Config) (path other : String) (item : PathItem) :
    (checkPathNames config other item).filter (isAboutSegment path) =
      if other = path then badSegments (isBraced · = true) config path else [] := by
  rw [checkPathNames, List.filter_append, filter_flatMap_eq_nil fun _ _ _ found => not_about_parameter found path,
    List.nil_append, checkSegments_eq]
  split
  next same =>
    subst other
    apply List.filter_eq_self.mpr
    intro violation member
    rw [isAboutSegment_of_badSegment member, decide_eq_true rfl]
  next differs =>
    apply List.filter_eq_nil_iff.mpr
    intro violation member
    rw [isAboutSegment_of_badSegment member, decide_eq_false differs]
    exact Bool.false_ne_true

/-- Each path is reported for itself, whatever other paths and schemas there are. -/
theorem filter_checkNames {config : Config} {document : Document} (distinct : (document.paths.map Prod.fst).Nodup)
    {path : String} {item : PathItem} (member : (path, item) ∈ document.paths) :
    (checkNames config document).filter (isAboutSegment path) = badSegments (isBraced · = true) config path := by
  rw [checkNames, List.filter_append, filter_flatMap_eq_nil fun _ _ _ found => not_about_property found path,
    List.nil_append, List.filter_flatMap, flatMap_of_key distinct member fun entry differs =>
      (filter_checkPathNames config path entry.1 entry.2).trans (if_neg differs)]
  exact (filter_checkPathNames config path path item).trans (if_pos rfl)

/-- The pass over the names reports, for each path, its segments in order that are not empty, do not start and end with
braces and do not follow the convention; and these are all the segments that are no placeholder and do not follow it,
exactly if whatever starts and ends with braces is one placeholder. -/
theorem naming_reports_segments (subject : Subject) (on : subject.config.enabled .naming)
    (distinct : (subject.document.paths.map Prod.fst).Nodup) (sink : Sink) :
    ∃ added, (Pass.naming.run subject sink).violations = sink.violations ++ added ∧
      ∀ path item, (path, item) ∈ subject.document.paths →
        added.filter (isAboutSegment path) = badSegments (isBraced · = true) subject.config path ∧
        (added.filter (isAboutSegment path) = badSegments IsWholePlaceholder subject.config path ↔
          ∀ segment ∈ path.toList.splitOn '/', isBraced segment → IsWholePlaceholder segment) := by
  have enabled : Pass.naming.isEnabled subject.config := List.any_eq_true.mpr ⟨.naming, by decide, on⟩
  refine ⟨checkNames subject.config subject.document, ?_, fun path item member => ?_⟩
  · rw [Pass.violations_run, Pass.contribution, if_pos enabled]
    rfl
  · have found : (checkNames subject.config subject.document).filter (isAboutSegment path) =
        badSegments (isBraced · = true) subject.config path := filter_checkNames distinct member
    refine ⟨found, ?_⟩
    rw [found]
    exact badSegments_eq_iff subject.config path

/-- A path with a plain segment, a placeholder, a placeholder with text behind it and two placeholders in one segment. -/
def rangedPath : String := "/Files/\x7bid\x7d/\x7bname\x7d.json/\x7bfrom\x7d-\x7bto\x7d"

theorem ranged_reports_segments : ({} : Config).enabled .naming ∧ ([(rangedPath, ({} : PathItem))].map Prod.fst).Nodup ∧
    (rangedPath, ({} : PathItem)) ∈ [(rangedPath, ({} : PathItem))] ∧
    (Pass.naming.run ⟨{ paths := [(rangedPath, {})] }, {}, {}⟩ {}).violations.filter (isAboutSegment rangedPath) =
      [.naming "Files" .path (.convention .hyphenCase) (.operation rangedPath none),
        .naming "\x7bname\x7d.json" .path (.convention .hyphenCase) (.operation rangedPath none)] := by
  obtain ⟨added, run, reports⟩ := naming_reports_segments ⟨{ paths := [(rangedPath, {})] }, {}, {}⟩ rfl (by decide) {}
  refine ⟨rfl, by decide, List.mem_cons_self, ?_⟩
  rw [run]
  exact (reports rangedPath {} List.mem_cons_self).1.trans (by decide)

/-- Two placeholders in one segment are no placeholder, and they are spared all the same. -/
theorem joined_placeholders_spared : ¬ ∀ (subject : Subject) (path : String) (item : PathItem),
    subject.config.enabled .naming → (subject.document.paths.map Prod.fst).Nodup →
    (path, item) ∈ subject.document.paths →
    (Pass.naming.run subject {}).violations.filter (isAboutSegment path) =
      badSegments IsWholePlaceholder subject.config path := by
  intro every
  have reported := every ⟨{ paths := [("/\x7bfrom\x7d-\x7bto\x7d", {})] }, {}, {}⟩ "/\x7bfrom\x7d-\x7bto\x7d" {} rfl
    (by decide) List.mem_cons_self
  revert reported
  decide

end ApiStyle
