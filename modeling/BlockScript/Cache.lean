import BlockScript.Expression.Reading
import BlockScript.Number.Double

/-!
# The cache of answers

The answers to expressions are kept per block, each for as long as its topic allows. An answer that
has expired is dropped when it is asked for; storing an answer also drops all expired ones, but not
more often than the shortest lifetime.
-/

namespace BlockScript

/-- How many seconds answers stay good, by topic. -/
structure Lifetimes where
  interaction : Double
  time : Double
  /-- For themes and files. -/
  long : Double
  other : Double
deriving DecidableEq

namespace Lifetimes

def of (l : Lifetimes) : Topic → Double
  | .interaction => l.interaction
  | .time => l.time
  | .theme => l.long
  | .file => l.long
  | .other => l.other

/-- The lifetime under the name of a topic; a name of no topic counts as the rest. -/
def named (l : Lifetimes) (name : String) : Double :=
  l.of ((Topic.ofName? name).getD .other)

/-- The first of the lifetimes that none after it falls below. -/
def shortest (l : Lifetimes) : Double :=
  (Topic.all.map l.of).foldl (fun m x => if x.lt m then x else m) l.interaction

def default : Lifetimes :=
  ⟨.ofInt 1, .ofInt 30, .ofInt 60, .ofInt 5⟩

end Lifetimes

/-- An answer kept for a block. -/
structure CacheEntry where
  block : String
  expression : String
  value : Bool
  topic : Topic
  expires : Double
deriving DecidableEq

namespace CacheEntry

def isFor (block expression : String) (e : CacheEntry) : Bool :=
  e.block == block && e.expression == expression

def hasExpired (now : Double) (e : CacheEntry) : Bool :=
  now.ge e.expires

end CacheEntry

/-- Answers and the time from which storing one sweeps out the expired ones. There is at most one
entry for a block and an expression. -/
structure Cache where
  lifetimes : Lifetimes
  entries : List CacheEntry
  nextSweep : Double

namespace Cache

/-- The empty cache at a time. -/
def start (lifetimes : Lifetimes) (now : Double) : Cache :=
  ⟨lifetimes, [], now + lifetimes.shortest⟩

def size (c : Cache) : Nat :=
  c.entries.length

/-- Drops the entries that satisfy `p`, and counts them. -/
def drop (p : CacheEntry → Bool) (c : Cache) : Cache × Nat :=
  let kept := c.entries.filter (!p ·)
  ({ c with entries := kept }, c.entries.length - kept.length)

/-- The answer kept for a block and an expression, if it has not expired; one that has is dropped. -/
def get (now : Double) (block expression : String) (c : Cache) : Cache × Option Bool :=
  match c.entries.find? (·.isFor block expression) with
  | none => (c, none)
  | some e => if e.hasExpired now then ((c.drop (·.isFor block expression)).1, none) else (c, some e.value)

def contains (now : Double) (block expression : String) (c : Cache) : Cache × Bool :=
  let (c, value) := c.get now block expression
  (c, value.isSome)

/-- Drops all expired entries, and puts off the next sweep. -/
def purgeExpired (now : Double) (c : Cache) : Cache × Nat :=
  { c with nextSweep := now + c.lifetimes.shortest }.drop (·.hasExpired now)

/-- If a sweep is due `now`, drops the entries that have expired when it is made, at `swept`. -/
def sweep (now swept : Double) (c : Cache) : Cache :=
  if now.ge c.nextSweep then (c.purgeExpired swept).1 else c

/-- Puts an entry in the place of the one for its block and expression, or at the end. -/
def place (e : CacheEntry) : List CacheEntry → List CacheEntry
  | [] => [e]
  | f :: fs => if f.isFor e.block e.expression then e :: fs else f :: place e fs

/-- Stores an answer that is good from `now` on. Nothing is stored, though a sweep may be made, for an
expression that has no topic because a number in it is too long. The clock is read again, at `swept`,
for the sweep. -/
def set (now swept : Double) (block expression : String) (value : Bool) (c : Cache) :
    Cache × Except NumberError Unit :=
  let c := c.sweep now swept
  match Expression.topicOf expression with
  | .error e => (c, .error e)
  | .ok topic =>
    let entry : CacheEntry := ⟨block, expression, value, topic, now + c.lifetimes.of topic⟩
    ({ c with entries := place entry c.entries }, .ok ())

/-- Drops the entries of a block. -/
def forgetBlock (block : String) (c : Cache) : Cache × Nat :=
  c.drop (·.block == block)

/-- Drops the entries of a block whose topic has this name. -/
def invalidate (block topic : String) (c : Cache) : Cache × Nat :=
  c.drop fun e => e.block == block && e.topic.name == topic

def clear (c : Cache) : Cache :=
  { c with entries := [] }

end Cache

end BlockScript
