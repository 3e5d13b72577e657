import Introspection.Inspection
import Introspection.Proofs.Dispatch
import Introspection.Proofs.DispatchVisibility
import Introspection.Proofs.Erasure
import Introspection.Proofs.FactoryHistory
import Introspection.Proofs.FieldFallback
import Introspection.Proofs.Inheritance
import Introspection.Proofs.PermissionGate
import Introspection.Proofs.PropertyOrder
import Introspection.Proofs.SetterAcceptance
import Introspection.Proofs.SetterChoice
import Introspection.Proofs.SetterEnforcement
import Introspection.Proofs.SetterPass
import Introspection.Proofs.SlotTyping
import Introspection.Proofs.NarrowestChoice
import Introspection.Proofs.FailedAccess
import Introspection.Proofs.NameLookup
import Introspection.Proofs.ResolutionPaths
import Introspection.Proofs.MethodEnumeration
import Introspection.Proofs.SubtypeSearch
import Introspection.Proofs.AssignabilityOrder
import Introspection.Proofs.VariableRenaming
import Introspection.Proofs.CandidateOrder
import Introspection.Proofs.HierarchyWalk
import Introspection.Proofs.InterfaceClosure
import Introspection.Proofs.FieldLens
import Introspection.Proofs.SupertypeWalks
import Introspection.Proofs.ErasureTermination
import Introspection.Proofs.PermissionText
import Introspection.Proofs.PropertyIndependence
import Introspection.Proofs.Allocation
import Introspection.Proofs.BeanNames
import Introspection.Proofs.BindingPaths
import Introspection.Proofs.SignatureText
import Introspection.Proofs.TableMaps
