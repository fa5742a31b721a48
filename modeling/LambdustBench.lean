import LambdustBench.Python.Runtime
import LambdustBench.Runner.Expander
import LambdustBench.Runner.Sandbox
import LambdustBench.Analysis.Descriptive
import LambdustBench.Analysis.Comparison
import LambdustBench.Analysis.Regression
import LambdustBench.Analysis.Ranking
import LambdustBench.Analysis.Summary
import LambdustBench.Runner.Sweep
import LambdustBench.Monitor.PerformanceMonitor
import LambdustBench.Monitor.Profiler
import LambdustBench.Python.Json
import LambdustBench.Analyzer.Runs
import LambdustBench.Analyzer.Loaded
import LambdustBench.Analyzer.Trends
import LambdustBench.Python.Text
import LambdustBench.Monitor.Valgrind
import LambdustBench.Generator.TestFiles
import LambdustBench.Runner.Configuration
import LambdustBench.Analysis.Processing
