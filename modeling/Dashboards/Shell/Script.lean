/-!
# Scripts of the shell

* `Part`        a piece of a word; a word is a list of parts;
* `Redirect`    where a descriptor leads while a command runs;
* `Node`        a command, simple or composed of others.
-/

namespace Dashboards
namespace Shell

/-- What happens to a variable that has no value. -/
inductive Fallback where
  /-- The word stands in. -/
  | use
  /-- The word stands in and becomes the value. -/
  | assign
  /-- The shell ends with the word as message. -/
  | fail
  /-- Nothing stands for a missing value, the word for any other. -/
  | instead
deriving DecidableEq

/-- The end of a value at which a pattern is removed. -/
inductive Side where
  | front
  | back
deriving DecidableEq

/-- How a redirection opens what its word names. -/
inductive Way where
  | read
  | write
  | append
  | readWrite
  /-- A copy of the descriptor that the word names. -/
  | copy
  /-- The word is the text to be read. -/
  | text
deriving DecidableEq

mutual

inductive Part where
  /-- Characters outside quotes. -/
  | plain (text : String)
  /-- Characters that mean themselves. -/
  | literal (text : String)
  /-- Parts between double quotes. -/
  | quoted (parts : List Part)
  | variable (name : String) (use : Use)
  /-- The output of a script. -/
  | output (script : Node)
  /-- The value of a sum, that is, of an arithmetic expression. -/
  | sum (parts : List Part)

/-- What is made of the value of a variable. -/
inductive Use where
  | value
  | length
  | otherwise (emptyToo : Bool) (fallback : Fallback) (word : List Part)
  | without (side : Side) (longest : Bool) (pattern : List Part)

inductive Redirect where
  | mk (descriptor : Nat) (way : Way) (word : List Part)

inductive Node where
  /-- Assignments, then a program with its arguments, on a line of the script. -/
  | simple (line : Nat) (assigns : List (String × List Part)) (words : List (List Part))
      (redirects : List Redirect)
  | redirected (line : Nat) (body : Node) (redirects : List Redirect)
  | sequence (nodes : List Node)
  | background (body : Node)
  /-- The second only if the first succeeds. -/
  | both (first second : Node)
  /-- The second only if the first fails. -/
  | either (first second : Node)
  | negated (body : Node)
  | pipeline (stages : List Node)
  | subshell (body : Node)
  | choice (condition yes no : Node)
  | loop (whileTrue : Bool) (condition body : Node)
  /-- The body once for each word, or for each argument of the script. -/
  | each (name : String) (words : Option (List (List Part))) (body : Node)
  /-- The first arm with a pattern that the word matches. -/
  | select (word : List Part) (arms : List (List (List Part) × Node))
  | define (name : String) (body : Node)

end

instance : Inhabited Node := ⟨.sequence []⟩

abbrev Word := List Part

end Shell
end Dashboards
