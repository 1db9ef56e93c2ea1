import Datapack.Proofs.Host.Basic
import Datapack.Proofs.Lists

/-!
Scripts in sections. A remark opens a section, and the lines up to the next remark belong to it.
The written lines show the same sections, since only remarks start with a number sign.
-/

namespace Datapack.Command

/-- A script of sections, each with its heading as a remark in front. -/
def headed (sections : List (String × List Command)) : List Command :=
  sections.flatMap fun part => .comment part.1 :: part.2

@[simp]
theorem headed_append (first second : List (String × List Command)) :
    headed (first ++ second) = headed first ++ headed second :=
  List.flatMap_append

theorem isHeading_eq_false {line : Command} (plain : line.isRemark = false) (heading : String) :
    line.isHeading heading = false := by
  cases line with
  | comment remark => cases plain
  | _ => rfl

theorem takeWhile_until_remark {lines rest : List Command}
    (plain : ∀ line ∈ lines, line.isRemark = false)
    (stops : ∀ line ∈ rest.head?, line.isRemark = true) :
    (lines ++ rest).takeWhile (fun line => !line.isRemark) = lines := by
  rw [List.takeWhile_append_of_pos (by simpa using plain)]
  cases rest with
  | nil => exact List.append_nil lines
  | cons line rest =>
    have remark := stops line rfl
    simp [remark]

theorem head?_headed (sections : List (String × List Command)) {rest : List Command}
    (stops : ∀ line ∈ rest.head?, line.isRemark = true) :
    ∀ line ∈ (headed sections ++ rest).head?, line.isRemark = true := by
  cases sections with
  | nil => exact stops
  | cons part sections =>
    rintro _ ⟨⟩
    rfl

/-- Below the heading of a section stand that section's lines, whatever follows behind a later
remark. -/
theorem under_headed {sections : List (String × List Command)} {heading : String}
    {lines rest : List Command}
    (plain : ∀ part ∈ sections, ∀ line ∈ part.2, line.isRemark = false)
    (stops : ∀ line ∈ rest.head?, line.isRemark = true)
    (listed : sections.lookup heading = some lines) :
    under heading (headed sections ++ rest) = lines := by
  induction sections with
  | nil => cases listed
  | cons part sections inductionHypothesis =>
    obtain ⟨name, body⟩ := part
    have own : ∀ line ∈ body, line.isRemark = false := plain _ (.head _)
    have shape : headed ((name, body) :: sections) ++ rest =
        .comment name :: (body ++ (headed sections ++ rest)) := by
      simp [headed]
    rw [under, shape]
    by_cases same : heading = name
    · subst same
      obtain rfl : body = lines := by simpa using listed
      rw [List.dropWhile_cons_of_neg (by simp [isHeading]), List.drop_succ_cons, List.drop_zero,
        takeWhile_until_remark own (head?_headed sections stops)]
    · have passed : ∀ line ∈ body, (!line.isHeading heading) = true := by
        intro line member
        rw [isHeading_eq_false (own line member), Bool.not_false]
      rw [List.dropWhile_cons_of_pos (by simpa [isHeading] using Ne.symm same),
        List.dropWhile_append_of_pos passed]
      rw [lookup_of_ne same] at listed
      exact inductionHypothesis (fun part member => plain part (.tail _ member)) listed

/-- The lines below a written heading, up to the next line that starts with a number sign. -/
def linesUnder (heading : String) (lines : List String) : List String :=
  ((lines.dropWhile fun line => line != "# " ++ heading).drop 1).takeWhile fun line =>
    line.toList.head? != some '#'

theorem head?_text (line : Command) :
    (line.text.toList.head? == some '#') = line.isRemark := by
  unfold text
  cases line <;> simp [isRemark]

theorem text_beq_heading (heading : String) (line : Command) :
    (line.text == "# " ++ heading) = line.isHeading heading := by
  rw [Bool.eq_iff_iff, beq_iff_eq]
  cases plain : line.isRemark with
  | true =>
    cases line with
    | comment remark =>
      unfold text
      simp [isHeading]
    | _ => cases plain
  | false =>
    -- A heading starts with a number sign, but this line does not.
    rw [isHeading_eq_false plain]
    refine iff_of_false ?_ Bool.false_ne_true
    intro same
    have first := line.head?_text
    rw [plain, same] at first
    simp at first

theorem linesUnder_text (heading : String) (lines : List Command) :
    linesUnder heading (lines.map text) = (under heading lines).map text := by
  unfold linesUnder under
  rw [List.dropWhile_map, ← List.map_drop, List.takeWhile_map]
  simp only [Function.comp_def, bne, head?_text, text_beq_heading]

end Datapack.Command
