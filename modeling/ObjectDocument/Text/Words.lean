import ObjectDocument.Text.Casing
import ObjectDocument.Text.Cluster

/-!
# Words of a name

A name is cut into words where its spelling shows one: at an underscore, a hyphen or a space, which
are dropped, before an upper case letter or a digit that follows the other kind, and before the last
of several capitals when a lower case letter follows (`HTTPServer` is `HTTP` and `Server`).  The
words are found on clusters of characters, so that a letter keeps its marks.  The naming styles then
join the words again.
-/

namespace ObjectDocument.Text

/-- Whether a cluster is an upper case letter: its case mappings differ and it is its own. -/
def isUpperCluster (cluster : List Char) : Bool :=
  upper cluster != lower cluster && cluster == upper cluster

/-- Whether a cluster is a lower case letter: its case mappings differ and it is its own. -/
def isLowerCluster (cluster : List Char) : Bool :=
  upper cluster != lower cluster && cluster == lower cluster

def isDigitCluster (cluster : List Char) : Bool :=
  cluster.all Char.isDigit

def isSeparator (cluster : List Char) : Bool :=
  cluster == ['_'] || cluster == ['-'] || cluster == [' ']

/-- Whether a word starts at `current`, between the cluster `last` and what follows. -/
def startsWord (last current : List Char) (next : Option (List Char)) : Bool :=
  (isLowerCluster last && isUpperCluster current) ||
    (isUpperCluster last && isDigitCluster current) ||
    (isDigitCluster last && (isUpperCluster current || isLowerCluster current)) ||
    (isLowerCluster last && isDigitCluster current) ||
    (isUpperCluster last && isUpperCluster current && next.any isLowerCluster)

/-- The words of the rest of a name, after the cluster `last` and with `word` begun. -/
def wordsFrom (last : Option (List Char)) (word : List Char) :
    List (List Char) → List (List Char)
  | [] => [word]
  | current :: rest =>
    if isSeparator current then word :: wordsFrom (some current) [] rest
    else if last.any (startsWord · current rest.head?) then
      word :: wordsFrom (some current) current rest
    else wordsFrom (some current) (word ++ current) rest

def words (name : List Char) : List (List Char) :=
  (wordsFrom none [] (clusters name)).filter (!·.isEmpty)

def capitalize : List Char → List Char
  | [] => []
  | c :: rest => upperChar c ++ lower rest

def joinWords (separator : List Char) (name : List Char) : List Char :=
  separator.intercalate ((words name).map lower)

def camelWords (name : List Char) : List Char :=
  match words name with
  | [] => []
  | first :: rest => lower first ++ (rest.map capitalize).flatten

end ObjectDocument.Text
