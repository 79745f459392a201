import SqlShell.Text.ClusterClass

/-!
# Clusters

A cluster is what a reader takes for one character: a letter with its marks, a syllable of Hangul,
two consonants joined by a virama, a composed emoji, a flag.

* `ClusterEnd` says what matters of the text in front of a character;
* `ClusterEnd.joins` decides whether the character belongs to the last cluster of that text;
* `clusters` cuts a text, and `flatten_clusters` says that nothing is lost.
-/

namespace SqlShell.Text

/-! ## The end of a text -/

/-- How much of a conjunct stands at the end of a text. -/
inductive Conjunct where
  | none
  /-- A consonant, with marks at most behind it. -/
  | consonant
  /-- A consonant, with a virama among the marks behind it. -/
  | linked
  deriving Repr, DecidableEq

/-- What the end of a text says about the character behind it. -/
structure ClusterEnd where
  last : ClusterClass
  /-- Whether the regional indicators at the end are odd in number. -/
  halfFlag : Bool := false
  /-- Whether a pictograph stands there, with marks at most and then one joiner at most behind it. -/
  pictograph : Bool := false
  conjunct : Conjunct := .none
  deriving Repr, DecidableEq

namespace ClusterEnd

/-- Whether a character of a class belongs to the cluster at the end of a text. -/
def joins (text : ClusterEnd) (next : ClusterClass) : Bool :=
  match text.last, next with
  | .carriageReturn, .lineFeed => true
  | .carriageReturn, _ | .lineFeed, _ | .control, _ => false
  | _, .carriageReturn | _, .lineFeed | _, .control => false
  | _, .extend | _, .virama | _, .nonJoiner | _, .joiner | _, .spacingMark => true
  | .prepend, _ => true
  | .leadingJamo, .leadingJamo | .leadingJamo, .vowelJamo | .leadingJamo, .openSyllable
  | .leadingJamo, .closedSyllable => true
  | .openSyllable, .vowelJamo | .vowelJamo, .vowelJamo => true
  | .openSyllable, .trailingJamo | .vowelJamo, .trailingJamo => true
  | .closedSyllable, .trailingJamo | .trailingJamo, .trailingJamo => true
  | .joiner, .pictograph => text.pictograph
  | .regionalIndicator, .regionalIndicator => text.halfFlag
  | _, .consonant => text.conjunct = .linked
  | _, _ => false

/-- How much of a conjunct stands at the end of a text once a character is added. -/
def conjunctWith (text : ClusterEnd) : ClusterClass → Conjunct
  | .consonant => .consonant
  | .virama => if text.conjunct = .none then .none else .linked
  | .extend | .joiner => text.conjunct
  | _ => .none

/-- The end of a text once a character of a class is added. -/
def push (text : ClusterEnd) (next : ClusterClass) : ClusterEnd where
  last := next
  halfFlag := next = .regionalIndicator && !(text.last = .regionalIndicator && text.halfFlag)
  pictograph :=
    match next with
    | .pictograph => true
    | .extend | .virama | .nonJoiner | .joiner => text.pictograph && text.last ≠ .joiner
    | _ => false
  conjunct := text.conjunctWith next

/-- The end of a text of one character. -/
def start (first : ClusterClass) : ClusterEnd :=
  push { last := .other } first

end ClusterEnd

/-! ## Cutting a text -/

/-- The clusters of a text behind a cluster that has been begun, which is given in reverse. -/
def clustersBehind (text : ClusterEnd) (cluster : List Char) : List Char → List (List Char)
  | [] => [cluster.reverse]
  | c :: rest =>
    let next := ClusterClass.of c
    if text.joins next then
      clustersBehind (text.push next) (c :: cluster) rest
    else
      cluster.reverse :: clustersBehind (text.push next) [c] rest

/-- The clusters of a text. -/
def clusters : List Char → List (List Char)
  | [] => []
  | c :: rest => clustersBehind (.start (ClusterClass.of c)) [c] rest

theorem flatten_clustersBehind (text : ClusterEnd) (cluster rest : List Char) :
    (clustersBehind text cluster rest).flatten = cluster.reverse ++ rest := by
  induction rest generalizing text cluster with
  | nil => simp [clustersBehind]
  | cons c rest ih =>
    simp only [clustersBehind]
    split
    · simp [ih]
    · simp [ih]

/-- The clusters of a text make up the text. -/
theorem flatten_clusters (text : List Char) : (clusters text).flatten = text := by
  cases text with
  | nil => rfl
  | cons c rest => simp [clusters, flatten_clustersBehind]

end SqlShell.Text
