import TransferBucket.CommandLine.Command

/-!
# The names that the command line takes

**Theorem (`names_accepted_by_grammar`).** The name of a bucket is accepted exactly if it is of the
form of one (`IsBucketName`) or is such a name with one line feed behind it; and so is the id of a
transfer process (`IsProcessName`). With any other name the command ends with status 2, and says
why on the stream of errors.

The patterns look for the end of a text, and a text ends before a line feed as well as behind it
(`withoutLineEnd`). So a name with a line feed is accepted where the name without it is
(`line_feed_is_accepted`). What is asked of the name beside the pattern sees the line feed, and is
the same with it (`infix_withoutLineEnd`, `prefix_withoutLineEnd`).
-/

namespace TransferBucket

namespace Validation

variable {c : Char} {cs : List Char} {name id : String}

/-! ## The forms of names -/

/-- The form of the name of a bucket. -/
structure IsBucketName (cs : List Char) : Prop where
  three_le : 3 ≤ cs.length
  le_sixtyThree : cs.length ≤ 63
  chars : ∀ c ∈ cs, c.isLower ∨ c.isDigit ∨ c = '.' ∨ c = '_' ∨ c = '-'
  first : ∃ c, cs.head? = some c ∧ (c.isLower ∨ c.isDigit)
  last : ∃ c, cs.getLast? = some c ∧ (c.isLower ∨ c.isDigit)
  dots : ¬ ['.', '.'] <:+: cs
  reserved : ¬ ['g', 'o', 'o', 'g'] <+: cs

/-- The form of the id of a transfer process. -/
structure IsProcessName (cs : List Char) : Prop where
  nonempty : cs ≠ []
  chars : ∀ c ∈ cs, c.isAlpha ∨ c.isDigit ∨ c = '_' ∨ c = '-'

/-- A text of a form, or one with a line feed behind it. -/
def MayEndLine (P : List Char → Prop) (cs : List Char) : Prop :=
  P cs ∨ ∃ body, P body ∧ cs = body ++ ['\n']

theorem IsBucketName.line_notMem (h : IsBucketName cs) : '\n' ∉ cs := fun hmem =>
  absurd (h.chars _ hmem) (by decide)

theorem IsProcessName.line_notMem (h : IsProcessName cs) : '\n' ∉ cs := fun hmem =>
  absurd (h.chars _ hmem) (by decide)

/-! ## The line feed at the end -/

theorem withoutLineEnd_append (body : List Char) : withoutLineEnd (body ++ ['\n']) = body := by
  simp [withoutLineEnd]

theorem withoutLineEnd_cases (cs : List Char) :
    withoutLineEnd cs = cs ∨ ∃ body, cs = body ++ ['\n'] := by
  by_cases h : cs.getLast? = some '\n'
  · obtain ⟨body, hbody⟩ := List.getLast?_eq_some_iff.1 h
    exact Or.inr ⟨body, hbody⟩
  · exact Or.inl (if_neg h)

/-- A form without line feeds is that of a text whose end of line is taken away, exactly if the text
is of the form or has a line feed behind it. -/
theorem withoutLineEnd_iff {P : List Char → Prop} (hline : ∀ {cs}, P cs → '\n' ∉ cs) :
    P (withoutLineEnd cs) ↔ MayEndLine P cs := by
  constructor
  · intro h
    rcases withoutLineEnd_cases cs with hself | ⟨body, rfl⟩
    · exact Or.inl (hself ▸ h)
    · rw [withoutLineEnd_append] at h
      exact Or.inr ⟨body, h, rfl⟩
  · rintro (h | ⟨body, h, rfl⟩)
    · rcases withoutLineEnd_cases cs with hself | ⟨body, rfl⟩
      · rwa [hself]
      · exact absurd (by simp) (hline h)
    · rwa [withoutLineEnd_append]

/-- What has no line feed occurs in a text with one at the end exactly if it occurs before that. -/
theorem infix_withoutLineEnd {part : List Char} (hline : '\n' ∉ part) :
    part <:+: withoutLineEnd cs ↔ part <:+: cs := by
  rcases withoutLineEnd_cases cs with hself | ⟨body, rfl⟩
  · rw [hself]
  · rw [withoutLineEnd_append, List.infix_concat_iff]
    refine ⟨Or.inr, ?_⟩
    rintro (hsuffix | hinfix)
    · rcases List.suffix_concat_iff.1 hsuffix with rfl | ⟨rest, rfl, -⟩
      · exact List.nil_infix
      · simp at hline
    · exact hinfix

theorem prefix_withoutLineEnd {part : List Char} (hline : '\n' ∉ part) :
    part <+: withoutLineEnd cs ↔ part <+: cs := by
  rcases withoutLineEnd_cases cs with hself | ⟨body, rfl⟩
  · rw [hself]
  · rw [withoutLineEnd_append, List.prefix_concat_iff]
    refine ⟨Or.inr, fun h => h.resolve_left ?_⟩
    rintro rfl
    simp at hline

/-! ## What is accepted -/

theorem isPlain_iff : isPlain c ↔ c.isLower ∨ c.isDigit := by
  have hboth : isPlain c = (c.isLower || c.isDigit) := rfl
  rw [hboth, Bool.or_eq_true]

theorem isInner_iff : isInner c ↔ c.isLower ∨ c.isDigit ∨ c = '.' ∨ c = '_' ∨ c = '-' := by
  simp [isInner, isPlain_iff, or_assoc]

theorem isProcessChar_iff : isProcessChar c ↔ c.isAlpha ∨ c.isDigit ∨ c = '_' ∨ c = '-' := by
  have hupper : ('A' ≤ c && c ≤ 'Z') = c.isUpper := (Bool.decide_and _ _).symm
  have halpha : c.isAlpha ↔ c.isLower ∨ c.isUpper := by
    have hboth : c.isAlpha = (c.isUpper || c.isLower) := rfl
    rw [hboth, Bool.or_eq_true, or_comm]
  simp only [isProcessChar, hupper, Bool.or_eq_true, isPlain_iff, halpha, beq_iff_eq, or_assoc]
  rw [or_left_comm (a := c.isDigit = true)]

theorem elim_isPlain_iff {c? : Option Char} :
    c?.elim false isPlain ↔ ∃ c, c? = some c ∧ (c.isLower ∨ c.isDigit) := by
  cases c? with
  | none => simp
  | some c => simp [isPlain_iff]

theorem hasBucketForm_iff : hasBucketForm cs ↔
    3 ≤ cs.length ∧ cs.length ≤ 63 ∧
      (∀ c ∈ cs, c.isLower ∨ c.isDigit ∨ c = '.' ∨ c = '_' ∨ c = '-') ∧
      (∃ c, cs.head? = some c ∧ (c.isLower ∨ c.isDigit)) ∧
      ∃ c, cs.getLast? = some c ∧ (c.isLower ∨ c.isDigit) := by
  simp only [hasBucketForm, Bool.and_eq_true, decide_eq_true_eq, List.all_eq_true, isInner_iff,
    elim_isPlain_iff, and_assoc]

/-- **The name of a bucket** is accepted if it is of the form of one, with or without a line feed
behind it. -/
theorem acceptsBucketName_iff : acceptsBucketName name ↔ MayEndLine IsBucketName name.toList := by
  have hdots : occursIn ['.', '.'] name.toList ↔ ['.', '.'] <:+: withoutLineEnd name.toList :=
    occursIn_iff.trans (infix_withoutLineEnd (by decide)).symm
  have hreserved : "goog".toList.isPrefixOf name.toList ↔
      ['g', 'o', 'o', 'g'] <+: withoutLineEnd name.toList :=
    List.isPrefixOf_iff_prefix.trans (prefix_withoutLineEnd (by decide)).symm
  rw [← withoutLineEnd_iff IsBucketName.line_notMem]
  simp only [acceptsBucketName, Bool.and_eq_true, Bool.not_eq_true', Bool.eq_false_iff, ne_eq,
    hdots, hreserved, hasBucketForm_iff]
  constructor
  · rintro ⟨⟨⟨hthree, hmost, hchars, hfirst, hlast⟩, hdots⟩, hreserved⟩
    exact ⟨hthree, hmost, hchars, hfirst, hlast, hdots, hreserved⟩
  · intro h
    exact ⟨⟨⟨h.three_le, h.le_sixtyThree, h.chars, h.first, h.last⟩, h.dots⟩, h.reserved⟩

/-- **The id of a transfer process** is accepted if it is of the form of one, with or without a line
feed behind it. -/
theorem acceptsProcessId_iff : acceptsProcessId id ↔ MayEndLine IsProcessName id.toList := by
  rw [← withoutLineEnd_iff IsProcessName.line_notMem]
  simp only [acceptsProcessId, Bool.and_eq_true, Bool.not_eq_true', List.isEmpty_eq_false_iff,
    List.all_eq_true, isProcessChar_iff]
  exact ⟨fun h => ⟨h.1, h.2⟩, fun h => ⟨h.nonempty, h.chars⟩⟩

theorem bucketNameRefusal?_text (name : String) : bucketNameRefusal? (.text name) =
    .ok (if acceptsBucketName name then none else some (bucketNameRefusal name)) := rfl

theorem processIdRefusal?_text (id : String) : processIdRefusal? (.text id) =
    .ok (if acceptsProcessId id then none else some (processIdRefusal id)) := rfl

end Validation

namespace CommandLine

open Shell Validation

variable {p : ProvisionSettings} {id name : String}

/-! ## The check of a command -/

/-- The explanation of the first name that is refused. -/
def ProvisionSettings.refusal? (p : ProvisionSettings) (id : String) : Option String :=
  if acceptsProcessId id then
    (p.bucketName.filter fun name => !acceptsBucketName name).map bucketNameRefusal
  else some (processIdRefusal id)

/-- The check of the names ends the command with status 2 where one is refused, and does nothing
where none is. -/
theorem ProvisionSettings.check_eq (hid : p.transferProcess = some id) (t : Terminal) :
    p.check t = match p.refusal? id with
      | none => (.ok (), t)
      | some refusal => (.error (.exit 2), { t with errors := t.errors ++ refusal }) := by
  have hprocess : processIdRefusal? (flagValue p.transferProcess) =
      .ok (if acceptsProcessId id then none else some (processIdRefusal id)) := by
    rw [hid]
    rfl
  rw [check, refusal?, hprocess]
  by_cases haccepted : acceptsProcessId id = true
  · rw [if_pos haccepted, if_pos haccepted]
    rcases p.bucketName with _ | name
    · rfl
    · dsimp only
      rw [bucketNameRefusal?_text]
      by_cases hname : acceptsBucketName name = true
      · rw [if_pos hname]
        simp only [Option.filter_some, hname]
        rfl
      · rw [if_neg hname]
        simp only [Option.filter_some, hname]
        rfl
  · rw [if_neg haccepted, if_neg haccepted]
    rfl

end CommandLine

namespace Validation

open CommandLine

variable {name id : String}

theorem bucketNameRefusal?_eq_none_iff :
    bucketNameRefusal? (.text name) = .ok none ↔ MayEndLine IsBucketName name.toList := by
  rw [← acceptsBucketName_iff, bucketNameRefusal?_text]
  cases acceptsBucketName name <;> simp

theorem processIdRefusal?_eq_none_iff :
    processIdRefusal? (.text id) = .ok none ↔ MayEndLine IsProcessName id.toList := by
  rw [← acceptsProcessId_iff, processIdRefusal?_text]
  cases acceptsProcessId id <;> simp

/-- **Names are accepted by their grammar.** Every other name ends the command with status 2: that
of a process at once, and that of a bucket where the one of the process is accepted. -/
theorem names_accepted_by_grammar (s : String) :
    (bucketNameRefusal? (.text s) = .ok none ↔ MayEndLine IsBucketName s.toList) ∧
    (processIdRefusal? (.text s) = .ok none ↔ MayEndLine IsProcessName s.toList) ∧
    ∀ (p : ProvisionSettings) (t : Terminal),
      (p.transferProcess = some s → ¬ MayEndLine IsProcessName s.toList →
        p.check t = (.error (.exit 2), { t with errors := t.errors ++ processIdRefusal s })) ∧
      ∀ id, p.transferProcess = some id → MayEndLine IsProcessName id.toList →
        (p.bucketName = none → p.check t = (.ok (), t)) ∧
        (p.bucketName = some s → MayEndLine IsBucketName s.toList → p.check t = (.ok (), t)) ∧
        (p.bucketName = some s → ¬ MayEndLine IsBucketName s.toList → p.check t =
          (.error (.exit 2), { t with errors := t.errors ++ bucketNameRefusal s })) := by
  refine ⟨bucketNameRefusal?_eq_none_iff, processIdRefusal?_eq_none_iff, fun p t => ⟨?_, ?_⟩⟩
  · intro hid hrefused
    rw [ProvisionSettings.check_eq hid, ProvisionSettings.refusal?,
      if_neg (mt acceptsProcessId_iff.1 hrefused)]
  · intro id hid haccepted
    rw [ProvisionSettings.check_eq hid, ProvisionSettings.refusal?,
      if_pos (acceptsProcessId_iff.2 haccepted)]
    refine ⟨fun hname => ?_, fun hname hname' => ?_, fun hname hrefused => ?_⟩ <;>
      rw [hname]
    · rfl
    · have hkept : acceptsBucketName s = true := acceptsBucketName_iff.2 hname'
      simp [Option.filter_some, hkept]
    · have hgone : acceptsBucketName s = false :=
        Bool.eq_false_iff.2 (mt acceptsBucketName_iff.1 hrefused)
      simp [Option.filter_some, hgone]

/-- The name of a bucket with two dots next to each other is refused, and so is an id with a blank;
sixty-three characters are not too many, nor is a line feed behind them. -/
theorem names_accepted_by_grammar_edges :
    let p : ProvisionSettings := { transferProcess := some "tp_1", bucketName := some "a..b" }
    let t : Terminal :=
      { host := { session := { vault := { kind := .environment } }, home := "/" } }
    let long := String.ofList (List.replicate 63 'x' ++ ['\n'])
    p.check t = (.error (.exit 2), { t with errors := bucketNameRefusal "a..b" }) ∧
      { p with transferProcess := some "tp 1" }.check t =
        (.error (.exit 2), { t with errors := processIdRefusal "tp 1" }) ∧
      { p with bucketName := some long }.check t = (.ok (), t) := by
  intro p t long
  have hid : MayEndLine IsProcessName "tp_1".toList := acceptsProcessId_iff.1 (by decide)
  have hid' : ¬ MayEndLine IsProcessName "tp 1".toList := mt acceptsProcessId_iff.2 (by decide)
  have hdots : ¬ MayEndLine IsBucketName "a..b".toList := mt acceptsBucketName_iff.2 (by decide)
  have hlong : MayEndLine IsBucketName long.toList := acceptsBucketName_iff.1 (by decide)
  refine ⟨?_, ?_, ?_⟩
  · exact (((names_accepted_by_grammar "a..b").2.2 p t).2 "tp_1" rfl hid).2.2 rfl hdots
  · exact ((names_accepted_by_grammar "tp 1").2.2 _ t).1 rfl hid'
  · exact (((names_accepted_by_grammar long).2.2 _ t).2 "tp_1" rfl hid).2.1 rfl hlong

/-- A line feed behind a name is accepted, although it is no character of a name. -/
theorem line_feed_is_accepted :
    (bucketNameRefusal? (.text "abc\n") = .ok none ∧ ¬ IsBucketName "abc\n".toList) ∧
      processIdRefusal? (.text "tp\n") = .ok none ∧ ¬ IsProcessName "tp\n".toList := by
  refine ⟨⟨?_, fun h => h.line_notMem (by decide)⟩, ?_, fun h => h.line_notMem (by decide)⟩
  · rw [bucketNameRefusal?_text, if_pos (by decide)]
  · rw [processIdRefusal?_text, if_pos (by decide)]

end Validation

end TransferBucket
