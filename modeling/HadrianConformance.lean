import HadrianConformance.Base.Json
import HadrianConformance.Base.Python
import HadrianConformance.Resolver.Resolve
import HadrianConformance.Resolver.Cache
import HadrianConformance.Resolver.Shape
import HadrianConformance.Differ.TypeString
import HadrianConformance.Resolver.Views
import HadrianConformance.Resolver.Termination
import HadrianConformance.Differ.Compare
import HadrianConformance.Differ.Symmetry
import HadrianConformance.Differ.Meaning
import HadrianConformance.Differ.Policy
import HadrianConformance.Differ.HashSeed
import HadrianConformance.Checker.Scope
import HadrianConformance.Checker.Endpoint
import HadrianConformance.Checker.Check
import HadrianConformance.Checker.Outcome
import HadrianConformance.Checker.Reads
import HadrianConformance.Checker.Independence
import HadrianConformance.Checker.HashSeed
import HadrianConformance.Checker.Schedule
import HadrianConformance.Checker.SelfCompare
import HadrianConformance.Report.Json
import HadrianConformance.Report.Text
