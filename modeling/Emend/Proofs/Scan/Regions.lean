import Emend.Rule.Scan

/-!
# Regions of a scan

What an application of a rule means, said without the loop: a list of regions, each found by a
search that begins where the one before lets the scan go on, and a text in which the expansion of
the template stands in place of each region. The list goes on for as long as the rule finds more.
-/

namespace Emend

open Pattern (Text Match)

/-- A region to be replaced: a match, where the search for it began, and where the region ends. -/
structure Region (text : Text) where
  lower : Nat
  found : Match text lower
  stop : Nat

namespace Region

variable {text : Text}

def start (region : Region text) : Nat := region.found.start

def next (region : Region text) : Nat := Rule.resume region.start region.stop

/-- Where the search goes on behind regions; it begins at the front of the text. -/
def searchBehind (regions : List (Region text)) : Nat := (regions.getLast?.map next).getD 0

/-- Where the text begins that lies behind regions, and at a position if there is none. -/
def stopBehind (start : Nat) (regions : List (Region text)) : Nat :=
  (regions.getLast?.map stop).getD start

/-- The text that a reference to a group stands for. Group zero is the text of the region; any
other group is what it captured in the match of this region, and nothing if it took no part. -/
def groupText (region : Region text) (index : Nat) : List Char :=
  if index = 0 then Rule.slice text region.start region.stop
  else
    match region.found.group? index with
    | some (start, stop) => Rule.slice text start stop
    | none => []

def filled (region : Region text) (template : Template) : List Char :=
  template.segments.flatMap fun
    | .literal chars => chars
    | .group index => region.groupText index

@[simp] theorem searchBehind_concat (regions : List (Region text)) (region : Region text) :
    searchBehind (regions ++ [region]) = region.next := by
  simp [searchBehind]

@[simp] theorem stopBehind_nil (start : Nat) :
    stopBehind start ([] : List (Region text)) = start := rfl

@[simp] theorem stopBehind_cons (start : Nat) (region : Region text)
    (rest : List (Region text)) :
    stopBehind start (region :: rest) = stopBehind region.stop rest := by
  unfold stopBehind
  rw [List.getLast?_cons]
  cases rest.getLast? <;> rfl

@[simp] theorem stopBehind_concat (start : Nat) (regions : List (Region text))
    (region : Region text) : stopBehind start (regions ++ [region]) = region.stop := by
  simp [stopBehind]

end Region

namespace Rule

variable {text : Text}

/-- A region ends with its match, or right before the first match of the terminator behind it. -/
def Ends (rule : Rule) (region : Region text) : Prop :=
  match rule.terminator with
  | none => region.stop = region.found.stop
  | some terminator =>
    ∃ close, terminator.find? text region.found.stop = some close ∧ region.stop = close.start

/-- A region is the one that a scan replaces behind earlier regions. -/
structure Finds (rule : Rule) (earlier : List (Region text)) (region : Region text) : Prop where
  goesOn : rule.mode = .firstMatch → earlier = []
  lower_eq : region.lower = Region.searchBehind earlier
  searched : rule.pattern.find? text region.lower = some region.found
  ends : rule.Ends region

/-- Why a scan is over behind regions, and how many matches without a terminator it has met. -/
inductive Finished (rule : Rule) (text : Text) (regions : List (Region text)) : Nat → Prop where
  /-- The mode asks for one region. -/
  | satisfied (mode : rule.mode = .firstMatch) (single : regions.length = 1) :
      Finished rule text regions 0
  /-- There is no further match. -/
  | exhausted (goesOn : rule.mode = .firstMatch → regions = [])
      (missing : text.size < Region.searchBehind regions ∨
        rule.pattern.find? text (Region.searchBehind regions) = none) :
      Finished rule text regions 0
  /-- The terminator of the next match never comes. -/
  | unterminated (goesOn : rule.mode = .firstMatch → regions = [])
      (found : Match text (Region.searchBehind regions))
      (searched : rule.pattern.find? text (Region.searchBehind regions) = some found)
      (terminator : Pattern) (terminated : rule.terminator = some terminator)
      (missing : terminator.find? text found.stop = none) :
      Finished rule text regions 1

/-- The text from a position up to the end of regions, with each of them replaced. -/
def rendered (rule : Rule) (text : Text) (start : Nat) : List (Region text) → List Char
  | [] => []
  | region :: rest =>
    slice text start region.start ++ region.filled rule.template ++
      rule.rendered text region.stop rest

/-- Regions account for what an application of a rule to a text does. -/
structure Explains (rule : Rule) (text : Text) (regions : List (Region text))
    (emendation : Emendation) : Prop where
  /-- Each region is the one that the scan comes to behind those before it. -/
  finds : ∀ index (inside : index < regions.length),
    rule.Finds (regions.take index) regions[index]
  within : ∀ region ∈ regions, region.start ≤ region.stop ∧ region.stop ≤ text.size
  apart : regions.Pairwise fun before behind =>
    before.stop ≤ behind.start ∧ before.start < behind.start
  finished : rule.Finished text regions emendation.unterminated
  matchCount_eq : emendation.matchCount = regions.length
  text_eq : emendation.text.toList =
    rule.rendered text 0 regions ++ slice text (Region.stopBehind 0 regions) text.size

/-! ## Ends of regions -/

theorem stop?_eq_some_iff {rule : Rule} {region : Region text} :
    rule.stop? region.found = some region.stop ↔ rule.Ends region := by
  unfold stop? Ends
  cases rule.terminator with
  | none => exact ⟨fun same => (Option.some.inj same).symm, fun same => congrArg some same.symm⟩
  | some terminator =>
    constructor
    · intro ends
      obtain ⟨close, searched, same⟩ := Option.map_eq_some_iff.mp ends
      exact ⟨close, searched, same.symm⟩
    · rintro ⟨close, searched, same⟩
      exact Option.map_eq_some_iff.mpr ⟨close, searched, same.symm⟩

theorem stop?_eq_none_iff {rule : Rule} {lower : Nat} {found : Match text lower} :
    rule.stop? found = none ↔
      ∃ terminator, rule.terminator = some terminator ∧
        terminator.find? text found.stop = none := by
  unfold stop?
  cases rule.terminator with
  | none =>
    constructor
    · intro ends
      cases ends
    · rintro ⟨_, terminated, _⟩
      cases terminated
  | some terminator =>
    constructor
    · intro missing
      exact ⟨terminator, rfl, Option.map_eq_none_iff.mp missing⟩
    · rintro ⟨other, same, missing⟩
      cases same
      exact Option.map_eq_none_iff.mpr missing

theorem stop_le_size_of_stop? {rule : Rule} {lower stop : Nat} {found : Match text lower}
    (ends : rule.stop? found = some stop) : stop ≤ text.size := by
  unfold stop? at ends
  cases terminated : rule.terminator with
  | none =>
    rw [terminated] at ends
    cases ends
    exact found.stop_le
  | some terminator =>
    rw [terminated] at ends
    obtain ⟨close, -, rfl⟩ := Option.map_eq_some_iff.mp ends
    exact Nat.le_trans close.start_le close.stop_le

/-! ## Rendering -/

theorem expansion_eq_filled (rule : Rule) (region : Region text) :
    rule.expansion region.found region.stop = region.filled rule.template := by
  unfold expansion Template.expand Region.filled
  apply congrArg (List.flatMap · rule.template.segments)
  funext segment
  cases segment with
  | literal chars => rfl
  | group index =>
    cases index with
    | zero => rfl
    | succ index =>
      change ((region.found.group? (index + 1)).map _).getD [] = region.groupText (index + 1)
      unfold Region.groupText
      rw [if_neg (Nat.succ_ne_zero index)]
      cases region.found.group? (index + 1) with
      | none => rfl
      | some place => rfl

theorem rendered_append (rule : Rule) (start : Nat) (front back : List (Region text)) :
    rule.rendered text start (front ++ back) =
      rule.rendered text start front ++
        rule.rendered text (Region.stopBehind start front) back := by
  induction front generalizing start with
  | nil => rfl
  | cons region rest ih =>
    rw [List.cons_append, rendered, ih, rendered, Region.stopBehind_cons]
    simp only [List.append_assoc]

/-- One more region adds the text in front of it and what takes its place. -/
theorem rendered_concat (rule : Rule) (start : Nat) (regions : List (Region text))
    (region : Region text) :
    rule.rendered text start (regions ++ [region]) =
      rule.rendered text start regions ++
        slice text (Region.stopBehind start regions) region.start ++
        region.filled rule.template := by
  rw [rendered_append, rendered, rendered, List.append_nil, List.append_assoc]

end Rule

end Emend
