import Winnow.Filter

/-!
# `Winnow.Filter.Edit` — changes to a compiled filter

A filter may be rebuilt in place. A node is named by its path, the argument positions from the root;
a path that names no node changes nothing.

## Contents
- **`editAt`**: a change at a path.
- Changes of combinators and of leaves, and **`wrap`**.
-/

namespace Winnow.Filter

/-- The filter that matches every row. -/
def everything : Filter := combine .all []

/-- Changes the node at a path. -/
def editAt (change : Filter → Filter) : List Nat → Filter → Filter
  | [], filter => change filter
  | position :: path, combine c arguments =>
    combine c (arguments.modify position (editAt change path))
  | _ :: _, leaf => leaf

/-- Changes the arguments of a combinator. -/
def mapArguments (change : List Filter → List Filter) : Filter → Filter
  | combine c arguments => combine c (change arguments)
  | leaf => leaf

/-- Adds a last argument. -/
def addArgument (argument : Filter) : Filter → Filter := mapArguments (· ++ [argument])

/-- Drops the last argument, if there is one. -/
def dropArgument : Filter → Filter := mapArguments List.dropLast

/-- Reverses the arguments. -/
def reverseArguments : Filter → Filter := mapArguments List.reverse

/-- Replaces a combinator. -/
def withCombinator (c : Combinator) : Filter → Filter
  | combine _ arguments => combine c arguments
  | leaf => leaf

/-- Moves a leaf to another column. -/
def withColumn (column : Nat) : Filter → Filter
  | inList _ values => inList column values
  | inRange _ min max => inRange column min max
  | other => other

/-- Replaces the values of a list. -/
def withValues (values : List Cell) : Filter → Filter
  | inList column _ => inList column values
  | other => other

/-- Replaces the bounds of a range. -/
def withBounds (min max : Cell) : Filter → Filter
  | inRange column _ _ => inRange column min max
  | other => other

/-- Makes a filter the only argument of a combinator, a number of times over. -/
def wrap (c : Combinator) : Nat → Filter → Filter
  | 0, filter => filter
  | times + 1, filter => wrap c times (combine c [filter])

end Winnow.Filter
