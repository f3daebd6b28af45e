import Emend.Pipeline
import Emend.Proofs.Rule.Compiled
import Emend.Proofs.Scan.Meaning

/-!
# Modes

A mode decides how far a scan goes and nothing else. A rule that stops at the first region finds the
one that a rule finds first that goes on, and leaves all behind it as it was; where there is none,
both end for the same reason. A rule that erases is one that puts nothing in place of every region.
So whether a rule applies to a buffer depends on its pattern and its terminator alone.
-/

namespace Emend

open Pattern (Text Match defaultWeightLimit)

namespace Rule

variable {rule other : Rule} {text : Text} {buffer : String}

/-! ## Rules that search for the same -/

/-- A rule searches with the pattern and the terminator of another one. -/
structure SearchesLike (other rule : Rule) : Prop where
  pattern_eq : other.pattern = rule.pattern
  terminator_eq : other.terminator = rule.terminator

namespace SearchesLike

theorem ends (like : other.SearchesLike rule) {region : Region text} (ends : rule.Ends region) :
    other.Ends region := by
  unfold Ends at ends ⊢
  rw [like.terminator_eq]
  exact ends

theorem finds (like : other.SearchesLike rule) {earlier : List (Region text)}
    {region : Region text} (goesOn : other.mode = .firstMatch → earlier = [])
    (finds : rule.Finds earlier region) : other.Finds earlier region where
  goesOn := goesOn
  lower_eq := finds.lower_eq
  searched := by
    rw [like.pattern_eq]
    exact finds.searched
  ends := like.ends finds.ends

/-- Where a scan is over that goes on behind every region, no other one goes on. -/
theorem finished (like : other.SearchesLike rule) {regions : List (Region text)} {count : Nat}
    (goesOn : other.mode = .firstMatch → regions = []) (full : rule.mode ≠ .firstMatch)
    (finished : rule.Finished text regions count) : other.Finished text regions count := by
  cases finished with
  | satisfied mode _ => exact absurd mode full
  | exhausted _ missing =>
    refine .exhausted goesOn ?_
    rw [like.pattern_eq]
    exact missing
  | unterminated _ found searched terminator terminated missing =>
    refine .unterminated goesOn found ?_ terminator ?_ missing
    · rw [like.pattern_eq]
      exact searched
    · rw [like.terminator_eq]
      exact terminated

end SearchesLike

/-! ## The first region -/

/-- What a rule does to a buffer is what any account of it says. -/
theorem Explains.eq_emend {regions : List (Region buffer.toList.toArray)} {emendation : Emendation}
    (explains : rule.Explains buffer.toList.toArray regions emendation) :
    rule.emend buffer = emendation := by
  obtain ⟨_, others⟩ := rule.exists_explains_emend buffer
  exact others.unique explains

/-- A rule replaces something if it finds a first region. -/
theorem matchCount_emend_pos_iff :
    0 < (rule.emend buffer).matchCount ↔
      ∃ region : Region buffer.toList.toArray, rule.Finds [] region := by
  obtain ⟨regions, explains⟩ := rule.exists_explains_emend buffer
  rw [explains.matchCount_eq]
  constructor
  · intro some
    exact ⟨regions[0], explains.finds 0 some⟩
  · rintro ⟨region, finds⟩
    refine List.length_pos_iff.mpr ?_
    rintro rfl
    exact explains.finished.not_finds finds

/-- Rules that search for the same apply to the same buffers. -/
theorem SearchesLike.applied_eq (like : other.SearchesLike rule) (buffer : String) (index : Nat)
    (name : String) :
    ((other.emend buffer).outcome index name).applied =
      ((rule.emend buffer).outcome index name).applied := by
  have back : rule.SearchesLike other := ⟨like.pattern_eq.symm, like.terminator_eq.symm⟩
  refine decide_eq_decide.mpr ?_
  rw [matchCount_emend_pos_iff, matchCount_emend_pos_iff]
  constructor
  · rintro ⟨region, finds⟩
    exact ⟨region, back.finds (fun _ => rfl) finds⟩
  · rintro ⟨region, finds⟩
    exact ⟨region, like.finds (fun _ => rfl) finds⟩

/-- The text up to the end of a region, with the region replaced. -/
def through (rule : Rule) (region : Region text) : String :=
  String.ofList (slice text 0 region.start ++ region.filled rule.template)

/-- What stopping at the first region comes to, told by what comes of going on. -/
structure StopsAtFirst (rule : Rule) (buffer : String) (first all : Emendation) : Prop where
  matchCount_eq : first.matchCount = min 1 all.matchCount
  unterminated_eq : first.unterminated = if all.matchCount = 0 then all.unterminated else 0
  untouched : all.matchCount = 0 → first.text = buffer ∧ all.text = buffer
  /-- Both agree up to the end of the first expansion. Behind it one text is what it was. -/
  text_eq : 0 < all.matchCount → ∃ (region : Region buffer.toList.toArray) (rest : String),
    rule.Finds [] region ∧ all.text = rule.through region ++ rest ∧
      first.text = rule.through region ++
        String.ofList (slice buffer.toList.toArray region.stop buffer.toList.toArray.size)

theorem toList_slice_all (buffer : String) :
    buffer.toList = slice buffer.toList.toArray 0 buffer.toList.toArray.size :=
  (slice_all buffer.toList).symm

/-- Where there is no region, stopping at the first one makes no difference. -/
theorem Explains.inFirstMatch_nil {emendation : Emendation} (full : rule.mode ≠ .firstMatch)
    (explains : rule.Explains buffer.toList.toArray [] emendation) :
    (rule.inMode .firstMatch).emend buffer = ⟨buffer, 0, emendation.unterminated⟩ := by
  have like : (rule.inMode .firstMatch).SearchesLike rule := ⟨rfl, rfl⟩
  have explained : (rule.inMode .firstMatch).Explains buffer.toList.toArray []
      ⟨buffer, 0, emendation.unterminated⟩ := {
    finds := fun _ inside => absurd inside (Nat.not_lt_zero _)
    within := nofun
    apart := .nil
    finished := like.finished (fun _ => rfl) full explains.finished
    matchCount_eq := rfl
    text_eq := toList_slice_all buffer }
  exact explained.eq_emend

/-- A rule that stops at the first region replaces it, and that is all. -/
theorem Explains.inFirstMatch_cons {region : Region buffer.toList.toArray}
    {rest : List (Region buffer.toList.toArray)} {emendation : Emendation}
    (explains : rule.Explains buffer.toList.toArray (region :: rest) emendation) :
    (rule.inMode .firstMatch).emend buffer =
      ⟨rule.through region ++
        String.ofList (slice buffer.toList.toArray region.stop buffer.toList.toArray.size), 1, 0⟩ := by
  have like : (rule.inMode .firstMatch).SearchesLike rule := ⟨rfl, rfl⟩
  have finds := explains.finds 0 (Nat.zero_lt_succ _)
  have explained : (rule.inMode .firstMatch).Explains buffer.toList.toArray [region]
      ⟨rule.through region ++ String.ofList (slice buffer.toList.toArray region.stop
        buffer.toList.toArray.size), 1, 0⟩ := {
    finds := by
      intro index inside
      cases Nat.lt_one_iff.mp inside
      exact like.finds (fun _ => rfl) finds
    within := by
      intro other member
      cases List.mem_singleton.mp member
      exact finds.within
    apart := List.pairwise_singleton _ _
    finished := .satisfied rfl rfl
    matchCount_eq := rfl
    text_eq := by
      rw [String.toList_append, through, String.toList_ofList, String.toList_ofList,
        Region.stopBehind_cons, Region.stopBehind_nil, rendered, rendered, List.append_nil]
      rfl }
  exact explained.eq_emend

theorem stopsAtFirst_inFirstMatch (full : rule.mode ≠ .firstMatch) (buffer : String) :
    rule.StopsAtFirst buffer ((rule.inMode .firstMatch).emend buffer) (rule.emend buffer) := by
  obtain ⟨regions, explains⟩ := rule.exists_explains_emend buffer
  have count_eq := explains.matchCount_eq
  cases regions with
  | nil =>
    have none : (rule.emend buffer).matchCount = 0 := count_eq
    have same : (rule.emend buffer).text = buffer := by
      rw [← String.toList_inj, explains.text_eq]
      exact (toList_slice_all buffer).symm
    rw [explains.inFirstMatch_nil full]
    refine ⟨?_, ?_, fun _ => ⟨rfl, same⟩, ?_⟩
    · rw [none]
      rfl
    · rw [if_pos none]
    · intro some
      omega
  | cons region rest =>
    have some : 0 < (rule.emend buffer).matchCount := count_eq ▸ Nat.zero_lt_succ _
    rw [explains.inFirstMatch_cons]
    refine ⟨(Nat.min_eq_left some).symm, ?_, ?_, ?_⟩
    · rw [if_neg (Nat.ne_of_gt some)]
    · intro none
      omega
    · intro _
      refine ⟨region, String.ofList (rule.rendered buffer.toList.toArray region.stop rest ++
        slice buffer.toList.toArray (Region.stopBehind region.stop rest)
          buffer.toList.toArray.size), explains.finds 0 (Nat.zero_lt_succ _), ?_, rfl⟩
      rw [← String.toList_inj, explains.text_eq, String.toList_append, through,
        String.toList_ofList, String.toList_ofList, rendered, Region.stopBehind_cons,
        List.append_assoc]

/-! ## Every region -/

theorem rendered_inMode (rule : Rule) (mode : Mode) (start : Nat) (regions : List (Region text)) :
    (rule.inMode mode).rendered text start regions = rule.rendered text start regions := by
  induction regions generalizing start with
  | nil => rfl
  | cons region rest ih =>
    rw [rendered, rendered, ih]
    rfl

/-- The modes that go on behind every region do the same. -/
theorem emend_inMode {mode : Mode} (goesOn : mode ≠ .firstMatch) (full : rule.mode ≠ .firstMatch)
    (buffer : String) : (rule.inMode mode).emend buffer = rule.emend buffer := by
  have like : (rule.inMode mode).SearchesLike rule := ⟨rfl, rfl⟩
  obtain ⟨regions, explains⟩ := rule.exists_explains_emend buffer
  have explained : (rule.inMode mode).Explains buffer.toList.toArray regions
      (rule.emend buffer) := {
    finds := fun index inside =>
      like.finds (fun satisfied => absurd satisfied goesOn) (explains.finds index inside)
    within := explains.within
    apart := explains.apart
    finished := like.finished (fun satisfied => absurd satisfied goesOn) full explains.finished
    matchCount_eq := explains.matchCount_eq
    text_eq := by
      rw [rendered_inMode]
      exact explains.text_eq }
  exact explained.eq_emend

/-! ## Rules compiled in several modes -/

variable {limit : Nat} {spec : RuleSpec}

/-- Neither the mode nor the replacement has a part in what a rule searches for. -/
theorem searchesLike_of_compile {mode mode' : Mode} {replacement replacement' : String}
    (compiles : compile limit ((spec.withReplacement replacement).inMode mode) = .ok rule)
    (compiles' : compile limit ((spec.withReplacement replacement').inMode mode') = .ok other) :
    other.SearchesLike rule := by
  have made := compile_eq_ok_iff.mp compiles
  have made' := compile_eq_ok_iff.mp compiles'
  exact ⟨Except.ok.inj (made'.pattern.symm.trans made.pattern),
    Except.ok.inj (made'.terminator.symm.trans made.terminator)⟩

/-- A rule compiled in some mode is the one compiled to replace every region, in that mode. -/
theorem exists_of_compile_inMode {mode : Mode}
    (compiles : compile limit (spec.inMode mode) = .ok rule) :
    ∃ all, compile limit (spec.inMode .replaceAll) = .ok all ∧ all.mode = .replaceAll ∧
      rule = all.inMode mode := by
  have bare : mode = .eraseRegion → spec.replacement = "" := (compile_eq_ok_iff.mp compiles).bare
  rw [compile_inMode limit spec bare] at compiles
  obtain ⟨all, compiles', same⟩ := exists_of_map_eq_ok compiles
  exact ⟨all, compiles', (compile_eq_ok_iff.mp compiles').mode_eq, same.symm⟩

/-- In the modes with a replacement a rule compiles alike, with the same error if it does not.
Stopping at the first region does what going on does up to the end of the first expansion.
Erasing is replacing every region by nothing. In which mode a rule applies is all the same. -/
theorem modes_agree (limit : Nat) (spec : RuleSpec) :
    compile limit (spec.inMode .firstMatch) =
        (compile limit (spec.inMode .replaceAll)).map (·.inMode .firstMatch) ∧
      (∀ first all, compile limit (spec.inMode .firstMatch) = .ok first →
        compile limit (spec.inMode .replaceAll) = .ok all →
        ∀ buffer, all.StopsAtFirst buffer (first.emend buffer) (all.emend buffer)) ∧
      (∀ erase, compile limit (spec.inMode .eraseRegion) = .ok erase →
        ∃ all, compile limit ((spec.withReplacement "").inMode .replaceAll) = .ok all ∧
          ∀ buffer, erase.emend buffer = all.emend buffer) ∧
      ∀ (mode mode' : Mode) (replacement replacement' : String) (rule other : Rule),
        compile limit ((spec.withReplacement replacement).inMode mode) = .ok rule →
        compile limit ((spec.withReplacement replacement').inMode mode') = .ok other →
        ∀ buffer index name, ((other.emend buffer).outcome index name).applied =
          ((rule.emend buffer).outcome index name).applied := by
  refine ⟨compile_inMode limit spec nofun, ?stops, ?erases, ?applies⟩
  case stops =>
    intro first all stops goesOn buffer
    obtain ⟨same, goesOn', full, rfl⟩ := exists_of_compile_inMode stops
    cases goesOn'.symm.trans goesOn
    exact stopsAtFirst_inFirstMatch (by rw [full]; nofun) buffer
  case erases =>
    intro erase erases
    have bare : spec.replacement = "" := (compile_eq_ok_iff.mp erases).bare rfl
    have same : spec.withReplacement "" = spec := by
      rw [← bare]
      rfl
    obtain ⟨all, goesOn, full, rfl⟩ := exists_of_compile_inMode erases
    rw [same]
    exact ⟨all, goesOn, emend_inMode nofun (by rw [full]; nofun)⟩
  case applies =>
    intro mode mode' replacement replacement' rule other compiles compiles'
    exact (searchesLike_of_compile compiles compiles').applied_eq

def noDigits : RuleSpec := .eraseRegion "digits" "[0-9]"

/-- Where there are two digits, the first mode deletes one and the others both. -/
theorem modes_agree_on_two_digits :
    ∃ first all erase named,
      compile defaultWeightLimit (noDigits.inMode .firstMatch) = .ok first ∧
      compile defaultWeightLimit (noDigits.inMode .replaceAll) = .ok all ∧
      compile defaultWeightLimit (noDigits.inMode .eraseRegion) = .ok erase ∧
      compile defaultWeightLimit ((noDigits.withReplacement "n").inMode .firstMatch) = .ok named ∧
      (first.emend "a1b2").text = "ab2" ∧ (all.emend "a1b2").text = "ab" ∧
      (named.emend "a1b2").text = "anb2" ∧
      all.StopsAtFirst "a1b2" (first.emend "a1b2") (all.emend "a1b2") ∧
      (erase.emend "a1b2").text = "ab" ∧
      ((named.emend "a1b2").outcome 0 "digits").applied =
        ((erase.emend "a1b2").outcome 0 "digits").applied := by
  have firsts : (compile defaultWeightLimit (noDigits.inMode .firstMatch)).toOption.any
      (fun rule => (rule.emend "a1b2").text = "ab2") = true := by decide +kernel
  have alls : (compile defaultWeightLimit (noDigits.inMode .replaceAll)).toOption.any
      (fun rule => (rule.emend "a1b2").text = "ab") = true := by decide +kernel
  have nameds : (compile defaultWeightLimit
      ((noDigits.withReplacement "n").inMode .firstMatch)).toOption.any
      (fun rule => (rule.emend "a1b2").text = "anb2") = true := by decide +kernel
  have erases : (compile defaultWeightLimit (noDigits.inMode .eraseRegion)).isOk = true := by
    decide +kernel
  simp only [Option.any_eq_true, decide_eq_true_eq] at firsts alls nameds
  obtain ⟨first, first_eq, firstText⟩ := firsts
  obtain ⟨all, all_eq, allText⟩ := alls
  obtain ⟨named, named_eq, namedText⟩ := nameds
  obtain ⟨erase, erase_eq⟩ := exists_of_isOk erases
  obtain ⟨-, stops, deletes, applies⟩ := modes_agree defaultWeightLimit noDigits
  obtain ⟨other, other_eq, same⟩ := deletes erase erase_eq
  cases other_eq.symm.trans (eq_ok_of_toOption all_eq)
  refine ⟨first, all, erase, named, eq_ok_of_toOption first_eq, eq_ok_of_toOption all_eq, erase_eq,
    eq_ok_of_toOption named_eq, firstText, allText, namedText,
    stops first all (eq_ok_of_toOption first_eq) (eq_ok_of_toOption all_eq) "a1b2", ?_, ?_⟩
  · rw [same, allText]
  · exact applies .eraseRegion .firstMatch "" "n" erase named erase_eq
      (eq_ok_of_toOption named_eq) "a1b2" 0 "digits"

end Rule

end Emend
