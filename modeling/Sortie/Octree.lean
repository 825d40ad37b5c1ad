import Sortie.Box

namespace Sortie

/-- What can be placed in the index. -/
structure Ball where
  position : Vec
  radius : Scalar

namespace Ball

def box (ball : Ball) : Box := Box.ofSphere ball.position ball.radius

end Ball

/-- A split has eight children, one per octant, in the order of their numbers. -/
inductive OctreeNode where
  | leaf (members : List Nat)
  | split (members : List Nat) (center : Vec) (children : List OctreeNode)

/-- Whether a visit goes on. -/
inductive Visit (σ : Type) where
  | next (state : σ)
  | stop (state : σ)

namespace Visit

def state {σ : Type} : Visit σ → σ
  | next state => state
  | stop state => state

def stopped {σ : Type} : Visit σ → Bool
  | next _ => false
  | stop _ => true

end Visit

namespace OctreeNode

def members : OctreeNode → List Nat
  | leaf members => members
  | split members _ _ => members

/-- Whether the box reaches the octant around a center. The bits of the octant's number stand for
the upper half along x, y and z; the upper half holds its plane, the lower does not. -/
def reaches (octant : Nat) (center : Vec) (box : Box) : Bool :=
  let side (axis : Nat) (low high middle : Scalar) : Bool :=
    if octant.testBit axis then middle ≤ high else low < middle
  side 0 box.low.x box.high.x center.x && side 1 box.low.y box.high.y center.y &&
    side 2 box.low.z box.high.z center.z

def centroid (balls : Array Ball) (members : List Nat) : Vec :=
  if members.isEmpty then .zero
  else
    let positions := members.filterMap fun index => balls[index]?.map Ball.position
    Vec.sum positions / Scalar.ofCount members.length

/-- The members whose sphere reaches an octant. -/
def bucket (balls : Array Ball) (members : List Nat) (center : Vec) (octant : Nat) : List Nat :=
  members.filter fun index =>
    match balls[index]? with
    | some ball => reaches octant center ball.box
    | none => false

/-- Splits until `depth` levels are used up or a node holds at most `capacity` members. -/
def build (balls : Array Ball) (capacity : Nat) : Nat → List Nat → OctreeNode
  | 0, members => leaf members
  | depth + 1, members =>
    if members.length ≤ capacity then leaf members
    else
      let center := centroid balls members
      split members center <| (List.range 8).map fun octant =>
        build balls capacity depth (bucket balls members center octant)

mutual

def leafCount : OctreeNode → Nat
  | leaf _ => 1
  | split _ _ children => leafCounts children

def leafCounts : List OctreeNode → Nat
  | [] => 0
  | child :: rest => child.leafCount + leafCounts rest

end

mutual

/-- The members of the leaves that the box reaches, in the order of the octants. A member in
several leaves appears once for each. -/
def reached (box : Box) : OctreeNode → List Nat
  | leaf members => members
  | split _ center children => reachedFrom box center 0 children

def reachedFrom (box : Box) (center : Vec) (octant : Nat) : List OctreeNode → List Nat
  | [] => []
  | child :: rest =>
    let here := if reaches octant center box then child.reached box else []
    here ++ reachedFrom box center (octant + 1) rest

end

end OctreeNode

/-- The visited members in one query and what the visit has gathered. -/
structure OctreeTrace (σ : Type) where
  seen : Array Bool
  gathered : σ

namespace OctreeTrace

/-- Offers a member to the visitor unless it was offered before. -/
def offer {σ : Type} (visitor : σ → Nat → Visit σ) (trace : OctreeTrace σ) (index : Nat) :
    Visit (OctreeTrace σ) :=
  if trace.seen.getD index true then .next trace
  else
    let seen := trace.seen.setIfInBounds index true
    match visitor trace.gathered index with
    | .next gathered => .next ⟨seen, gathered⟩
    | .stop gathered => .stop ⟨seen, gathered⟩

def offerAll {σ : Type} (visitor : σ → Nat → Visit σ) :
    OctreeTrace σ → List Nat → Visit (OctreeTrace σ)
  | trace, [] => .next trace
  | trace, index :: rest =>
    match trace.offer visitor index with
    | .next trace => offerAll visitor trace rest
    | .stop trace => .stop trace

mutual

/-- Walks the leaves that the box reaches. -/
def walk {σ : Type} (visitor : σ → Nat → Visit σ) (box : Box) (trace : OctreeTrace σ) :
    OctreeNode → Visit (OctreeTrace σ)
  | .leaf members => trace.offerAll visitor members
  | .split _ center children => walkFrom visitor box center 0 trace children

def walkFrom {σ : Type} (visitor : σ → Nat → Visit σ) (box : Box) (center : Vec) (octant : Nat)
    (trace : OctreeTrace σ) : List OctreeNode → Visit (OctreeTrace σ)
  | [] => .next trace
  | child :: rest =>
    if OctreeNode.reaches octant center box then
      match walk visitor box trace child with
      | .next trace => walkFrom visitor box center (octant + 1) trace rest
      | .stop trace => .stop trace
    else walkFrom visitor box center (octant + 1) trace rest

end

end OctreeTrace

/-- A spatial index over spheres. A node is split at the centroid of its members; a sphere that
straddles a split plane belongs to every octant it overlaps. A query visits the members of the
leaves that a box reaches, each at most once, and may stop early. -/
structure Octree where
  balls : Array Ball
  root : OctreeNode
  bounds : Box

namespace Octree

/-- The smallest box around all spheres; around none, the origin. -/
def boundsOf (balls : Array Ball) : Box :=
  if balls.isEmpty then ⟨.zero, .zero⟩
  else
    let start : Box := ⟨.splat Scalar.largest, .splat (-Scalar.largest)⟩
    balls.foldl (fun box ball =>
      ⟨box.low.min ball.box.low, box.high.max ball.box.high⟩) start

/-- The index of the spheres, split at most `depth` times into leaves of `capacity`. -/
def build (balls : Array Ball) (depth capacity : Nat) : Octree :=
  ⟨balls, OctreeNode.build balls (Max.max capacity 1) depth (List.range balls.size),
    boundsOf balls⟩

def size (tree : Octree) : Nat := tree.balls.size

def leafCount (tree : Octree) : Nat := tree.root.leafCount

/-- Offers the visitor each sphere in a leaf that the box reaches, until it stops. -/
def visit {σ : Type} (tree : Octree) (box : Box) (visitor : σ → Nat → Visit σ) (start : σ) :
    Visit σ :=
  if tree.balls.isEmpty ∨ ¬ tree.bounds.overlaps box then .next start
  else
    let trace : OctreeTrace σ := ⟨Array.replicate tree.size false, start⟩
    match trace.walk visitor box tree.root with
    | .next trace => .next trace.gathered
    | .stop trace => .stop trace.gathered

/-- The spheres that a visit without a stop is offered, in order. -/
def candidates (tree : Octree) (box : Box) : Array Nat :=
  (tree.visit box (fun (found : Array Nat) index => .next (found.push index)) #[]).state

end Octree

end Sortie
