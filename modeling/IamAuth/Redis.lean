import IamAuth.Schema

/-!
# The Redis server

Only what cache.rs asks of it: keys with a value and an expiry, and the five
commands it sends. A command that fails has no effect and no reply. The server
may lose any keys at any time (`lose`): a restart, an eviction, a failover.
-/

set_option autoImplicit false

namespace IamAuth

structure RedisEntry where
  key : String
  value : String
  expiresAt : DateTime
  deriving DecidableEq, Repr

abbrev Redis := List RedisEntry

/-- Glob matching of `SCAN ... MATCH`, without character sets: no pattern the
service builds contains a bracket, since `Uuid::parse_str` accepts none. -/
def globMatch : List Char → List Char → Bool
  | [], s => s.isEmpty
  | '*' :: p, s => s.tails.any (globMatch p)
  | '?' :: p, _ :: s => globMatch p s
  | '?' :: _, [] => false
  | c :: p, d :: s => c == d && globMatch p s
  | _ :: _, [] => false

inductive RedisCmd where
  | setEx (key value : String) (ttlSecs : Nat)
  | exists (key : String)
  | get (key : String)
  | scan (cursor : Nat) (pattern : String)
  | del (keys : List String)

/-- `none` is a failed command. -/
@[reducible] def RedisReply : RedisCmd → Type
  | .setEx .. => Option Unit
  | .exists _ => Option Bool
  | .get _ => Option (Option String)
  | .scan .. => Option (Nat × List String)
  | .del _ => Option Unit

namespace Redis

def live (c : Choice) (key : String) (e : RedisEntry) : Bool :=
  e.key == key && decide (c.now < e.expiresAt)

def lose (keys : List String) (r : Redis) : Redis := r.filter fun e => !keys.contains e.key

/-- `SCAN` returns some of the matching keys that are present, and a cursor. -/
def exec (c : Choice) (r : Redis) : (cmd : RedisCmd) → RedisReply cmd × Redis
  | .setEx key value ttl =>
    if c.fails then (none, r)
    else (some (), r.filter (fun e => e.key != key) ++ [⟨key, value, c.now + seconds ttl⟩])
  | .exists key => (if c.fails then none else some (r.any (live c key)), r)
  | .get key => (if c.fails then none else some ((r.find? (live c key)).map (·.value)), r)
  | .scan _ pattern =>
    (if c.fails then none
     else some (c.cursor, c.texts.filter fun k =>
       r.any (live c k) && globMatch pattern.toList k.toList), r)
  | .del keys => if c.fails then (none, r) else (some (), r.lose keys)

end Redis

end IamAuth
