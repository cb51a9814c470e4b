import LabGrader.Text.Blank

/-!
# Assignments and prompts

An assignment is a title line and a description. Together with the scoring sheet they make the
instructions for the judge; a submission makes the question, cut to a size that a judge takes.
-/

namespace LabGrader

structure Assignment where
  name : Text
  prompt : Text
deriving DecidableEq

namespace Assignment

def spaceForTab (c : Char) : Char := if c = '\t' then ' ' else c

/-- The first line that is not blank is the title; a blank text is no assignment. -/
def ofText? (t : Text) : Option Assignment :=
  let t := Text.trim (t.map spaceForTab)
  if t.isEmpty then none
  else some ⟨Text.trim (t.takeWhile (· ≠ '\n')), Text.trim ((t.dropWhile (· ≠ '\n')).drop 1)⟩

end Assignment

namespace Prompt

def responseFormat : Text :=
  "SCORE:[score]\nCOMMENTS:[a single sentence summary]\nCONFIDENCE:[score from 1-5 for the confidence you have in your given grade]".toList

def opening : Text :=
  "You are an AI grader for a Java programming class. Specifically, you are grading an assignment called ".toList

def instructions : Text :=
  ". Some grading instructions, the assignment prompt, and the scoring sheet will be provided below. The user will provide you their code to grade. Do your best job grading.

### **Grading instructions:**
1. Meticulously go through each and every point in the scoring sheet
    a) first write out the piece of student's code that corresponds to the point(s)
    b) then, explain whether or not the student's code satisfies the scoring sheet requirements
    c) deduct point(s) if necessary.
2. Combine all deductions and subtract from the total score to obtain the student's score.
3. Output your grading with the following format:
".toList

def system (name prompt sheet : Text) : Text :=
  opening ++ name ++ instructions ++ responseFormat ++
    "\n\n### **Assignment Prompt:**\n'''\n".toList ++ prompt ++
    "\n'''\n\n### **Scoring Sheet:**\n'''\n".toList ++ sheet ++ "\n'''\n".toList

/-- The number of characters that a judge takes. -/
def limit : Nat := 60000

/-- A rendered submission as the judge gets it. One that is too long is cut, and its fence closed. -/
def user (rendered : Text) : Text :=
  let kept := rendered.take limit
  if kept.length = rendered.length then rendered
  else kept ++ (if kept.getLast? = some '\n' then [] else ['\n']) ++ "\x60\x60\x60".toList

end Prompt

end LabGrader
