import ParamSql.Event
import ParamSql.Json.Compact
import ParamSql.Scalar.Calendar
import ParamSql.Scalar.FixedPoint
import ParamSql.Scalar.Uuid
import ParamSql.Value.Json
import ParamSql.Proofs.Filter.ReadBack
import ParamSql.Proofs.Placeholders.Compiler
import ParamSql.Proofs.Rebinding.Compiler
import ParamSql.Proofs.Restriction.Filtered
import ParamSql.Proofs.Value.Classified
import ParamSql.Proofs.Value.Document
import ParamSql.Proofs.Restriction.Columns
import ParamSql.Proofs.Projection.Aliases
import ParamSql.Proofs.Projection.Induction
import ParamSql.Proofs.Restriction.Alone
import ParamSql.Proofs.Recasing.Basic
import ParamSql.Proofs.Recasing.Filter
import ParamSql.Proofs.Recasing.Compiler
import ParamSql.Proofs.Quoting.Basic
import ParamSql.Proofs.Quoting.Filter
import ParamSql.Proofs.Quoting.Compiler
import ParamSql.Proofs.Filter.Grammar
import ParamSql.Proofs.Placeholders.Binding
import ParamSql.Proofs.Rowwise
import ParamSql.Proofs.TableRef.Aliases
import ParamSql.Proofs.TableRef.Induction
import ParamSql.Proofs.KeyedMap.History
import ParamSql.Proofs.Value.Maps
import ParamSql.Proofs.Value.Construction
import ParamSql.Proofs.Quoting.Names
import ParamSql.Proofs.Quoting.Rows
import ParamSql.Proofs.Placement.Basic
import ParamSql.Proofs.Placement.Reading
import ParamSql.Proofs.Projection.Declared
import ParamSql.Proofs.Placement.Compiler
import ParamSql.Proofs.Value.Leaves
import ParamSql.Proofs.Value.Numbers
import ParamSql.Proofs.Modifiers.Grammar
import ParamSql.Proofs.Modifiers.Directions
import ParamSql.Proofs.Modifiers.Counts
import ParamSql.Proofs.TableRef.Grammar
import ParamSql.Proofs.TableRef.Clauses
import ParamSql.Proofs.Text.Nesting
import ParamSql.Proofs.Projection.Layout
import ParamSql.Proofs.Projection.Lifting
import ParamSql.Proofs.Projection.Fields
import ParamSql.Proofs.Projection.Naming
import ParamSql.Proofs.Scope.Columns
import ParamSql.Proofs.Scope.Clauses
import ParamSql.Proofs.Text.Numeral
import ParamSql.Proofs.Modifiers.Construction
import ParamSql.Proofs.Modifiers.Clauses
