-- The leftmost marker of a line decides what the serialisation rules make
-- of the line: all three rules in order are one rule on that marker. A
-- rule that cuts the line at a later marker neither hides the leftmost
-- one nor makes a new one, since its attribute holds no marker and starts
-- with a character that no marker has.
import ProtoRefresh.Proofs.Rewrite.Lines
import ProtoRefresh.Rewrite.Marker

namespace ProtoRefresh.Rewrite

open Text

/-! ## The leftmost rule -/

/-- What stands in a marker before its insertion point. -/
def markerLead : List CodePoint := points "// "

/-- Whether the insertion point at a place of a line is the one inside a marker there. -/
def isInside (marker : String) (line : List CodePoint) (place : Nat) : Bool :=
  markerLead.length ≤ place && (points marker).isPrefixOf (line.drop (place - markerLead.length))

/-- What the leftmost insertion point makes of a line. -/
def leftmostRule (line : List CodePoint) : Option (List CodePoint) :=
  match find? (points insertionPoint) line with
  | none => some line
  | some place =>
    let before := line.take (place - markerLead.length)
    if isInside specialFieldMarker line place then some (before ++ points serdeSkip)
    else if isInside messageMarker line place then some (before ++ points serdeDerive)
    else none

/-! ## First occurrences -/

theorem findFrom_eq {marker : List CodePoint} (hne : marker ≠ []) (line : List CodePoint)
    (start : Nat) :
    findFrom marker line start = (find? marker line).map (· + start) := by
  unfold find?
  induction line generalizing start with
  | nil => simp [findFrom, hne]
  | cons c rest ih =>
    simp only [findFrom]
    split
    · simp
    · rw [ih (start + 1), ih (0 + 1), Option.map_map]
      congr 1
      funext n
      simp only [Function.comp_apply]
      omega

theorem find?_nil {marker : List CodePoint} (hne : marker ≠ []) : find? marker [] = none := by
  simp [find?, findFrom, hne]

theorem find?_cons {marker : List CodePoint} (hne : marker ≠ []) (c : CodePoint)
    (rest : List CodePoint) :
    find? marker (c :: rest) =
      if marker <+: c :: rest then some 0 else (find? marker rest).map (· + 1) := by
  conv_lhs => unfold find?
  simp only [findFrom, List.isPrefixOf_iff_prefix]
  split
  · rfl
  · rw [findFrom_eq hne]

/-- A text is found where it occurs first. -/
theorem find?_eq_some_iff {marker line : List CodePoint} (hne : marker ≠ []) {place : Nat} :
    find? marker line = some place ↔
      marker <+: line.drop place ∧ ∀ earlier < place, ¬ marker <+: line.drop earlier := by
  induction line generalizing place with
  | nil =>
    simp only [find?_nil hne, List.drop_nil, List.prefix_nil]
    simp [hne]
  | cons c rest ih =>
    rw [find?_cons hne]
    split
    · rename_i hp
      cases place with
      | zero => simpa using hp
      | succ n =>
        simp only [Option.some.injEq]
        refine ⟨fun h => by omega, fun h => ?_⟩
        exact absurd hp (h.2 0 (by omega))
    · rename_i hp
      cases place with
      | zero => simpa using hp
      | succ n =>
        simp only [Option.map_eq_some_iff, List.drop_succ_cons]
        constructor
        · rintro ⟨m, hm, hmn⟩
          obtain rfl : m = n := by omega
          obtain ⟨h1, h2⟩ := ih.1 hm
          refine ⟨h1, fun earlier he => ?_⟩
          cases earlier with
          | zero => simpa using hp
          | succ k => simpa using h2 k (by omega)
        · rintro ⟨h1, h2⟩
          refine ⟨n, ih.2 ⟨h1, fun earlier he => ?_⟩, rfl⟩
          simpa using h2 (earlier + 1) (by omega)

/-- A text that is not found does not occur. -/
theorem find?_eq_none_iff {marker line : List CodePoint} (hne : marker ≠ []) :
    find? marker line = none ↔ ¬ marker <:+: line := by
  induction line with
  | nil => simp [find?_nil hne, hne]
  | cons c rest ih =>
    rw [find?_cons hne, List.infix_cons_iff]
    split
    · rename_i hp
      simp [hp]
    · rename_i hp
      simp [hp, ih]

/-! ## Occurrences in what a cut leaves -/

/-- A text occurs in the start of a line where it occurs in the line and ends in time. -/
theorem prefix_drop_take_iff {part line : List CodePoint} (hne : part ≠ []) {place cut : Nat} :
    part <+: (line.take cut).drop place ↔ part <+: line.drop place ∧ place + part.length ≤ cut := by
  rw [List.drop_take, List.prefix_take_iff]
  have hlen : 0 < part.length := List.length_pos_iff.2 hne
  constructor
  · rintro ⟨h1, h2⟩
    exact ⟨h1, by omega⟩
  · rintro ⟨h1, h2⟩
    exact ⟨h1, by omega⟩

theorem find?_take {part line : List CodePoint} (hne : part ≠ []) {place cut : Nat}
    (h : find? part line = some place) (hcut : place + part.length ≤ cut) :
    find? part (line.take cut) = some place := by
  obtain ⟨h1, h2⟩ := (find?_eq_some_iff hne).1 h
  refine (find?_eq_some_iff hne).2 ⟨(prefix_drop_take_iff hne).2 ⟨h1, hcut⟩, ?_⟩
  intro earlier he hp
  exact h2 earlier he ((prefix_drop_take_iff hne).1 hp).1

theorem find?_take_eq_none {part line : List CodePoint} (hne : part ≠ []) {place cut : Nat}
    (h : find? part line = some place) (hcut : cut < place + part.length) :
    find? part (line.take cut) = none := by
  obtain ⟨_, h2⟩ := (find?_eq_some_iff hne).1 h
  cases hf : find? part (line.take cut) with
  | none => rfl
  | some other =>
    obtain ⟨ho, _⟩ := (find?_eq_some_iff hne).1 hf
    obtain ⟨ho, hfits⟩ := (prefix_drop_take_iff hne).1 ho
    exact absurd ho (h2 other (by omega))

theorem prefix_of_prefix_append_cons {part before after : List CodePoint} {c : CodePoint}
    (hc : c ∉ part)
    (h : part <+: before ++ c :: after) : part <+: before := by
  have hlen : part.length ≤ before.length := by
    by_contra hlt
    have hget := List.prefix_iff_getElem?.1 h before.length (by omega)
    simp only [List.getElem?_append_right (Nat.le_refl _), Nat.sub_self, List.getElem?_cons_zero,
      Option.some.injEq] at hget
    exact hc (hget ▸ List.getElem_mem _)
  exact List.prefix_of_prefix_length_le h (List.prefix_append _ _) hlen

/-- Text that is put behind a line brings no occurrence when it starts with a foreign character. -/
theorem find?_append_cons {part after : List CodePoint} {c : CodePoint} (hne : part ≠ [])
    (hc : c ∉ part)
    (hafter : ¬ part <:+: after) (before : List CodePoint) :
    find? part (before ++ c :: after) = find? part before := by
  induction before with
  | nil =>
    rw [find?_nil hne, find?_eq_none_iff hne]
    intro h
    rcases @Line.infix_of_append_cons part [] after c hc h with hi | hi
    · exact hne (List.infix_nil.1 hi)
    · exact hafter hi
  | cons d before ih =>
    rw [List.cons_append, find?_cons hne, find?_cons hne, ih]
    have hiff : part <+: d :: (before ++ c :: after) ↔ part <+: d :: before :=
      ⟨fun h => @prefix_of_prefix_append_cons part (d :: before) after c hc h,
        fun h => h.trans (List.prefix_append (d :: before) (c :: after))⟩
    simp only [hiff]

/-! ## Markers and attributes -/

/-- A marker starts with the lead and the insertion point. It has no slash but those of the lead,
and nothing that an attribute starts with. -/
structure IsMarker (marker : String) : Prop where
  start : markerLead ++ points insertionPoint <+: points marker
  no_slash : .char '/' ∉ (points marker).drop markerLead.length
  no_hash : .char '#' ∉ points marker

/-- An attribute starts with a character that no marker has, and holds no insertion point and no
line end. -/
structure IsAttribute (attr : String) : Prop where
  start : ∃ rest, points attr = .char '#' :: rest ∧ ¬ points insertionPoint <:+: rest
  no_newline : .char '\n' ∉ points attr
  no_return : .char '\r' ∉ points attr

theorem isMarker_specialField : IsMarker specialFieldMarker := ⟨by decide, by decide, by decide⟩

theorem isMarker_message : IsMarker messageMarker := ⟨by decide, by decide, by decide⟩

theorem isAttribute_skip : IsAttribute serdeSkip :=
  ⟨⟨_, rfl, by decide⟩, by decide, by decide⟩

theorem isAttribute_derive : IsAttribute serdeDerive :=
  ⟨⟨_, rfl, by decide +kernel⟩, by decide, by decide⟩

theorem point_ne_nil : points insertionPoint ≠ [] := by decide

theorem length_point : (points insertionPoint).length = 24 := by decide

theorem length_lead : markerLead.length = 3 := by decide

namespace IsMarker

variable {marker : String} (hm : IsMarker marker)
include hm

theorem ne_nil : points marker ≠ [] := by
  intro h
  have hs := hm.start
  rw [h] at hs
  exact absurd (List.prefix_nil.1 hs) (by decide)

/-- A marker that occurs has its insertion point behind its lead. -/
theorem point_of_occurs {line : List CodePoint} {place : Nat}
    (h : points marker <+: line.drop place) :
    points insertionPoint <+: line.drop (place + markerLead.length) := by
  obtain ⟨rest, hrest⟩ := hm.start.trans h
  rw [← List.drop_drop, ← hrest, List.append_assoc, List.drop_left]
  exact List.prefix_append _ _

/-- An insertion point that occurs before the one of a marker ends before the marker starts. -/
theorem ends_before {line : List CodePoint} {place start : Nat}
    (hp : points insertionPoint <+: line.drop place) (hs : points marker <+: line.drop start)
    (hlt : place < start + markerLead.length) :
    place + (points insertionPoint).length ≤ start := by
  by_contra hover
  have := length_point
  have := length_lead
  -- the two share a place, whose character is one of the lead and of the insertion point
  have hlead : markerLead <+: line.drop start :=
    (List.prefix_append _ _).trans (hm.start.trans hs)
  have h1 := List.prefix_iff_getElem?.1 hp (max place start - place) (by omega)
  have h2 := List.prefix_iff_getElem?.1 hlead (max place start - start) (by omega)
  rw [List.getElem?_drop] at h1 h2
  have he : place + (max place start - place) = start + (max place start - start) := by omega
  rw [he, h2] at h1
  have hdisjoint : ∀ c ∈ markerLead, c ∉ points insertionPoint := by
    decide
  have hc := Option.some.inj h1
  apply hdisjoint _ (List.getElem_mem _)
  rw [hc]
  exact List.getElem_mem _

/-- A marker ends before another one starts. -/
theorem ends_before_marker {other : String} (ho : IsMarker other) {line : List CodePoint}
    {start next : Nat} (hs : points marker <+: line.drop start)
    (hn : points other <+: line.drop next) (hlt : start + markerLead.length ≤ next) :
    start + (points marker).length ≤ next := by
  by_contra hover
  have h1 := List.prefix_iff_getElem?.1 hs (next - start) (by omega)
  have h2 := List.prefix_iff_getElem?.1 (ho.start.trans hn) 0 (by decide)
  rw [List.getElem?_drop] at h1 h2
  have he : start + (next - start) = next + 0 := by omega
  rw [he, h2] at h1
  have hslash : (markerLead ++ points insertionPoint)[0] = '/' := by decide
  apply hm.no_slash
  rw [List.mem_iff_getElem?]
  refine ⟨next - start - markerLead.length, ?_⟩
  rw [List.getElem?_drop, show markerLead.length + (next - start - markerLead.length) =
    next - start by omega, List.getElem?_eq_getElem (by omega), ← Option.some.inj h1, hslash]

end IsMarker

theorem isInside_iff {marker : String} {line : List CodePoint} {place : Nat} :
    isInside marker line place = true ↔
      markerLead.length ≤ place ∧ points marker <+: line.drop (place - markerLead.length) := by
  simp [isInside, List.isPrefixOf_iff_prefix]

/-! ## One rule -/

/-- A line without an insertion point holds no marker. -/
theorem apply_of_no_point {marker attr : String} (hm : IsMarker marker) {line : List CodePoint}
    (h : find? (points insertionPoint) line = none) :
    (Rule.literal marker (some attr)).apply line = some line := by
  have hno : find? (points marker) line = none := by
    rw [find?_eq_none_iff point_ne_nil] at h
    rw [find?_eq_none_iff hm.ne_nil]
    intro hi
    apply h
    exact ((List.suffix_append markerLead (points insertionPoint)).isInfix.trans
      hm.start.isInfix).trans hi
  simp [Rule.apply, Rule.literal, hno]

/-- A rule for the marker of the leftmost insertion point cuts the line there, and what it puts
behind the cut holds no insertion point. -/
theorem apply_of_inside {marker attr : String} (hm : IsMarker marker) (ha : IsAttribute attr)
    {line : List CodePoint} {place : Nat} (hp : find? (points insertionPoint) line = some place)
    (hin : isInside marker line place = true) :
    (Rule.literal marker (some attr)).apply line =
        some (line.take (place - markerLead.length) ++ points attr) ∧
      find? (points insertionPoint) (line.take (place - markerLead.length) ++ points attr) =
        none := by
  obtain ⟨hle, hocc⟩ := isInside_iff.1 hin
  obtain ⟨_, hfirst⟩ := (find?_eq_some_iff point_ne_nil).1 hp
  have := length_lead
  constructor
  · have hfind : find? (points marker) line = some (place - markerLead.length) := by
      refine (find?_eq_some_iff hm.ne_nil).2 ⟨hocc, fun earlier he hm' => ?_⟩
      exact hfirst (earlier + markerLead.length) (by omega) (hm.point_of_occurs hm')
    simp [Rule.apply, Rule.literal, hfind]
  · obtain ⟨rest, hrest, hno⟩ := ha.start
    rw [hrest, find?_append_cons point_ne_nil (by decide) hno]
    exact find?_take_eq_none point_ne_nil hp (by omega)

/-- A rule for another marker leaves the leftmost insertion point as it is, with what stands
before it and the marker that it is in. -/
theorem apply_of_not_inside {marker attr : String} (hm : IsMarker marker) (ha : IsAttribute attr)
    {line : List CodePoint} {place : Nat} (hp : find? (points insertionPoint) line = some place)
    (hin : isInside marker line place = false) :
    ∃ after, (Rule.literal marker (some attr)).apply line = some after ∧
      find? (points insertionPoint) after = some place ∧
      after.take (place - markerLead.length) = line.take (place - markerLead.length) ∧
      ∀ other, IsMarker other → isInside other after place = isInside other line place := by
  cases hf : find? (points marker) line with
  | none =>
    exact ⟨line, by simp [Rule.apply, Rule.literal, hf], hp, rfl, fun _ _ => rfl⟩
  | some cut =>
    obtain ⟨hpoint, hfirst⟩ := (find?_eq_some_iff point_ne_nil).1 hp
    obtain ⟨hocc, _⟩ := (find?_eq_some_iff hm.ne_nil).1 hf
    have := length_lead
    have := length_point
    -- the marker that is cut starts after the leftmost insertion point
    have hlt : place < cut + markerLead.length := by
      rcases Nat.lt_trichotomy place (cut + markerLead.length) with h | h | h
      · exact h
      · have : isInside marker line place = true :=
          isInside_iff.2 ⟨by omega, by simpa [h] using hocc⟩
        simp [this] at hin
      · exact absurd (hm.point_of_occurs hocc) (hfirst _ h)
    have hends := hm.ends_before hpoint hocc hlt
    have hcut : cut ≤ line.length := by
      by_contra hover
      rw [List.drop_eq_nil_of_le (by omega)] at hocc
      exact hm.ne_nil (List.prefix_nil.1 hocc)
    have hlen : place - markerLead.length ≤ (line.take cut).length := by
      rw [List.length_take]
      omega
    obtain ⟨rest, hrest, hno⟩ := ha.start
    refine ⟨line.take cut ++ points attr, by simp [Rule.apply, Rule.literal, hf], ?_, ?_, ?_⟩
    · rw [hrest, find?_append_cons point_ne_nil (by decide) hno]
      exact find?_take point_ne_nil hp hends
    · rw [List.take_append_of_le_length hlen, List.take_take]
      congr 1
      omega
    · intro other ho
      rw [Bool.eq_iff_iff, isInside_iff, isInside_iff, List.drop_append_of_le_length hlen]
      refine and_congr_right fun hle => ⟨fun h => ?_, fun h => ?_⟩
      · rw [hrest] at h
        exact ((prefix_drop_take_iff ho.ne_nil).1 (prefix_of_prefix_append_cons ho.no_hash h)).1
      · have hfits := ho.ends_before_marker hm h hocc (by omega)
        have htake : points other <+: (line.take cut).drop (place - markerLead.length) :=
          (prefix_drop_take_iff ho.ne_nil).2 ⟨h, hfits⟩
        exact htake.trans (List.prefix_append _ _)

/-! ## All rules -/

theorem rewriteLine_serdeRules (line : List CodePoint) :
    rewriteLine serdeRules line =
      ((Rule.literal specialFieldMarker (some serdeSkip)).apply line).bind fun line =>
        ((Rule.literal messageMarker (some serdeDerive)).apply line).bind
          (Rule.literal insertionPoint none).apply := by
  simp only [rewriteLine, serdeRules, serdeMarkers, List.map_cons, List.map_nil, List.foldlM_cons,
    List.foldlM_nil, bind_pure]
  rfl

/-- The last rule deletes a line that still has an insertion point. -/
theorem apply_point (line : List CodePoint) :
    (Rule.literal insertionPoint none).apply line =
      if find? (points insertionPoint) line = none then some line else none := by
  cases h : find? (points insertionPoint) line <;> simp [Rule.apply, Rule.literal, h]

/-- The rules in order are the rule of the leftmost insertion point. -/
theorem rewriteLine_eq_leftmostRule (line : List CodePoint) :
    rewriteLine serdeRules line = leftmostRule line := by
  rw [rewriteLine_serdeRules, leftmostRule]
  cases hp : find? (points insertionPoint) line with
  | none =>
    rw [apply_of_no_point isMarker_specialField hp, Option.bind_some,
      apply_of_no_point isMarker_message hp, Option.bind_some, apply_point, if_pos hp]
  | some place =>
    simp only
    cases hs : isInside specialFieldMarker line place with
    | true =>
      obtain ⟨happly, hnone⟩ := apply_of_inside isMarker_specialField isAttribute_skip hp hs
      rw [happly, Option.bind_some, apply_of_no_point isMarker_message hnone, Option.bind_some,
        apply_point, if_pos hnone, if_pos rfl]
    | false =>
      obtain ⟨after, happly, hp', hbefore, hsame⟩ :=
        apply_of_not_inside isMarker_specialField isAttribute_skip hp hs
      rw [happly, Option.bind_some, ← hsame _ isMarker_message, ← hbefore, if_neg (by simp)]
      cases hg : isInside messageMarker after place with
      | true =>
        obtain ⟨happly, hnone⟩ := apply_of_inside isMarker_message isAttribute_derive hp' hg
        rw [happly, Option.bind_some, apply_point, if_pos hnone, if_pos rfl]
      | false =>
        obtain ⟨last, happly, hp'', _⟩ :=
          apply_of_not_inside isMarker_message isAttribute_derive hp' hg
        rw [happly, Option.bind_some, apply_point, if_neg (by simp [hp'']), if_neg (by simp)]

-- The rule for special fields comes first, but the marker of the message stands further left.
example :
    rewriteLine serdeRules
        (points ("end " ++ messageMarker ++ "A) " ++ specialFieldMarker ++ "B)")) =
      some (points ("end " ++ serdeDerive)) := by
  decide +kernel

/-! ## Whole texts -/

/-- A kept line is the old one, or a start of it with an attribute, and has no insertion point. -/
theorem leftmostRule_eq_some {line body : List CodePoint} (h : leftmostRule line = some body) :
    find? (points insertionPoint) body = none ∧
      (body = line ∨ ∃ attr n, IsAttribute attr ∧ body = line.take n ++ points attr) := by
  unfold leftmostRule at h
  cases hp : find? (points insertionPoint) line with
  | none =>
    simp only [hp, Option.some.injEq] at h
    exact ⟨h ▸ hp, Or.inl h.symm⟩
  | some place =>
    simp only [hp] at h
    split at h
    · rename_i hs
      obtain rfl := Option.some.inj h
      exact ⟨(apply_of_inside isMarker_specialField isAttribute_skip hp hs).2,
        Or.inr ⟨_, _, isAttribute_skip, rfl⟩⟩
    · split at h
      · rename_i hg
        obtain rfl := Option.some.inj h
        exact ⟨(apply_of_inside isMarker_message isAttribute_derive hp hg).2,
          Or.inr ⟨_, _, isAttribute_derive, rfl⟩⟩
      · simp at h

/-- A kept line has its line end where the old one had it. -/
theorem sound_leftmostRule (line : Line) (hs : line.Sound) (body : List CodePoint)
    (h : leftmostRule line.body = some body) :
    Line.Sound ⟨body, line.ending⟩ ∧ (line.body ≠ [] → body ≠ []) := by
  rcases (leftmostRule_eq_some h).2 with rfl | ⟨attr, n, ha, rfl⟩
  · exact ⟨⟨hs.no_newline, hs.no_return⟩, id⟩
  · obtain ⟨rest, hrest, _⟩ := ha.start
    have hne : points attr ≠ [] := by simp [hrest]
    exact ⟨hs.cut n hne ha.no_return ha.no_newline, fun _ => by simp [hne]⟩

theorem rewriteText_serdeRules (text : List CodePoint) :
    rewriteText serdeRules text = Line.join ((Line.ofText text).filterMap fun line =>
      (leftmostRule line.body).map fun body => ⟨body, line.ending⟩) := by
  simp only [rewriteText, rewriteLine_eq_leftmostRule]

/-- The rules leave no insertion point. -/
theorem not_infix_rewriteText_serdeRules (text : List CodePoint) :
    ¬ points insertionPoint <:+: rewriteText serdeRules text := by
  rw [rewriteText_serdeRules]
  intro hi
  have hnormal := (Line.normal_ofText text).filterMap sound_leftmostRule
  obtain ⟨line, hl, hpoint⟩ := Line.infix_body_of_infix_join point_ne_nil (by decide) (by decide)
    hnormal hi
  obtain ⟨old, _, hold⟩ := List.mem_filterMap.1 hl
  obtain ⟨body, hbody, rfl⟩ := Option.map_eq_some_iff.1 hold
  exact (find?_eq_none_iff point_ne_nil).1 (leftmostRule_eq_some hbody).1 hpoint

/-- The leftmost marker of each line decides what becomes of the line. Each kept line has its own
ending, and no insertion point is left in the text. -/
theorem the_leftmost_marker_decides (text : List CodePoint) :
    (∀ line, rewriteLine serdeRules line = leftmostRule line) ∧
      Line.ofText (rewriteText serdeRules text) =
        (Line.ofText text).filterMap (fun line =>
          (leftmostRule line.body).map fun body => ⟨body, line.ending⟩) ∧
      ¬ points insertionPoint <:+: rewriteText serdeRules text := by
  have hnormal := (Line.normal_ofText text).filterMap sound_leftmostRule
  refine ⟨rewriteLine_eq_leftmostRule, ?_, not_infix_rewriteText_serdeRules text⟩
  rw [rewriteText_serdeRules, Line.ofText_join hnormal]

end ProtoRefresh.Rewrite
