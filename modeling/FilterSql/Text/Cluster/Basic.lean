import FilterSql.Text.Cluster.Role

namespace FilterSql.Text

def ClusterRole.joins : ClusterRole → ClusterRole → Bool
  | .carriageReturn, .lineFeed => true
  | .carriageReturn, _ => false
  | .lineFeed, _ => false
  | .control, _ => false
  | _, .carriageReturn => false
  | _, .lineFeed => false
  | _, .control => false
  | _, .extending => true
  | _, .joiner => true
  | _, .spacingMark => true
  | .leadingMark, _ => true
  | .hangulLead, .hangulLead => true
  | .hangulLead, .hangulVowel => true
  | .hangulLead, .hangulOpenSyllable => true
  | .hangulLead, .hangulClosedSyllable => true
  | .hangulVowel, .hangulVowel => true
  | .hangulVowel, .hangulTail => true
  | .hangulOpenSyllable, .hangulVowel => true
  | .hangulOpenSyllable, .hangulTail => true
  | .hangulClosedSyllable, .hangulTail => true
  | .hangulTail, .hangulTail => true
  | _, _ => false

/-- How far a sequence has come that a later character may go on with: nowhere, to what begins it, or
to what asks for another one like that. -/
inductive Stage
  | absent
  | begun
  | asking
  deriving DecidableEq, Repr

/-- A consonant, then extending characters with a linker among them, ask for another consonant. -/
def Stage.conjunct (stage : Stage) (c : Char) (role : ClusterRole) : Stage :=
  match stage, role with
  | _, .consonant => .begun
  | .absent, _ => .absent
  | stage, .joiner => stage
  | stage, .extending => if isLinker c then .asking else if c = '\u200c' then .absent else stage
  | _, _ => .absent

/-- A pictograph, then extending characters and a joiner, ask for another pictograph. -/
def Stage.pictographs : Stage → ClusterRole → Stage
  | _, .pictograph => .begun
  | .begun, .extending => .begun
  | .begun, .joiner => .asking
  | _, _ => .absent

def Stage.flag : Stage → ClusterRole → Stage
  | .asking, .regionalIndicator => .begun
  | _, .regionalIndicator => .asking
  | _, _ => .absent

structure ClusterState where
  last : ClusterRole
  conjunct : Stage
  pictographs : Stage
  flag : Stage
  deriving DecidableEq, Repr

namespace ClusterState

def start (c : Char) : ClusterState :=
  let role := clusterRole c
  ⟨role, Stage.absent.conjunct c role, Stage.absent.pictographs role, Stage.absent.flag role⟩

def next (s : ClusterState) (c : Char) : ClusterState :=
  let role := clusterRole c
  ⟨role, s.conjunct.conjunct c role, s.pictographs.pictographs role, s.flag.flag role⟩

def goesOn (s : ClusterState) (c : Char) : Bool :=
  let role := clusterRole c
  s.last.joins role || (s.conjunct == .asking && role == .consonant) ||
    (s.pictographs == .asking && role == .pictograph) ||
    (s.flag == .asking && role == .regionalIndicator)

end ClusterState

def clustersFrom (s : ClusterState) (cluster : List Char) : List Char → List (List Char)
  | [] => [cluster.reverse]
  | c :: rest =>
    if s.goesOn c then clustersFrom (s.next c) (c :: cluster) rest
    else cluster.reverse :: clustersFrom (s.next c) [c] rest

def clusters : List Char → List (List Char)
  | [] => []
  | c :: rest => clustersFrom (.start c) [c] rest

theorem flatten_clustersFrom (s : ClusterState) (cluster cs : List Char) :
    (clustersFrom s cluster cs).flatten = cluster.reverse ++ cs := by
  induction cs generalizing s cluster with
  | nil => simp [clustersFrom]
  | cons c rest ih =>
    rw [clustersFrom]
    split
    · simp [ih]
    · simp [ih]

@[simp] theorem flatten_clusters (cs : List Char) : (clusters cs).flatten = cs := by
  cases cs with
  | nil => rfl
  | cons c rest => simp [clusters, flatten_clustersFrom]

end FilterSql.Text
