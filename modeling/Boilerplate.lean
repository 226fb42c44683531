import Boilerplate.OptionSet.Samples
import Boilerplate.Output
import Boilerplate.Proofs.Record.Entries
import Boilerplate.Record.Samples
import Boilerplate.Record.Session
import Boilerplate.Proofs.Record.Reference
import Boilerplate.Proofs.Record.RoundTrip
import Boilerplate.Proofs.Unicode.Casing
import Boilerplate.Proofs.Words
import Boilerplate.Proofs.Naming
import Boilerplate.Proofs.OptionSet.CaseName
import Boilerplate.Proofs.Ascii
import Boilerplate.Proofs.OptionSet.Accepted
import Boilerplate.Proofs.OptionSet.Names
import Boilerplate.Proofs.Output
import Boilerplate.Proofs.OptionSet.Declares
import Boilerplate.Proofs.OptionSet.Layout
import Boilerplate.Proofs.OptionSet.Carried
import Boilerplate.Proofs.Directive
import Boilerplate.Proofs.Record.Declares
import Boilerplate.Proofs.Record.Order
import Boilerplate.Proofs.Siblings
import Boilerplate.Proofs.Record.Emitted
import Boilerplate.Proofs.Record.StringForms
import Boilerplate.Proofs.OptionSet.Algebra
import Boilerplate.Proofs.Provided
import Boilerplate.Proofs.Record.Sequence
import Boilerplate.Proofs.Reported
import Boilerplate.Proofs.OptionSet.Listing
import Boilerplate.Proofs.Arguments
import Boilerplate.Proofs.OptionSet.Configured
import Boilerplate.Proofs.OptionSet.Faults
import Boilerplate.Proofs.FieldSettings.Unknown
import Boilerplate.Proofs.Record.AbsentFields
import Boilerplate.Proofs.Ascii.Words
import Boilerplate.Proofs.OptionSet.ConstantShape
import Boilerplate.Proofs.OptionSet.Lookup
import Boilerplate.Proofs.OptionSet.Respelling
import Boilerplate.Proofs.Record.Setters
import Boilerplate.Proofs.Placement
import Boilerplate.Proofs.MemberNames
import Boilerplate.Proofs.Record.Literals
import Boilerplate.Proofs.Record.KeyLists
import Boilerplate.Proofs.Record.Scope
