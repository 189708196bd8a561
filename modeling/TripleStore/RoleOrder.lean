/-!
Contract: the six orders in which the roles of a triple can be walked.

Owns: the orders, their names, and the pairing of the two orders that end in the
same role.

Does not own: the indexes that realise an order (`TripleStore.Store`).
-/

namespace TripleStore

/-- An order of subject, predicate and object, first role first. -/
inductive RoleOrder where
  | spo
  | sop
  | pso
  | pos
  | osp
  | ops
deriving DecidableEq, Repr

namespace RoleOrder

def all : List RoleOrder :=
  [.spo, .sop, .pso, .pos, .osp, .ops]

def name : RoleOrder → String
  | .spo => "SPO"
  | .sop => "SOP"
  | .pso => "PSO"
  | .pos => "POS"
  | .osp => "OSP"
  | .ops => "OPS"

def ofName? (text : String) : Option RoleOrder :=
  all.find? (·.name == text)

/-- The order that swaps the first two roles and ends in the same one. -/
def partner : RoleOrder → RoleOrder
  | .spo => .pso
  | .pso => .spo
  | .sop => .osp
  | .osp => .sop
  | .pos => .ops
  | .ops => .pos

@[simp] theorem partner_partner (order : RoleOrder) :
    order.partner.partner = order := by
  cases order <;> rfl

theorem mem_all (order : RoleOrder) : order ∈ all := by
  cases order <;> decide

end RoleOrder

end TripleStore
