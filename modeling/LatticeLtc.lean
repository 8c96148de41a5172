import LatticeLtc.Go.Strings
import LatticeLtc.Go.Ints
import LatticeLtc.Model
import LatticeLtc.Routes
import LatticeLtc.Ports
import LatticeLtc.Env
import LatticeLtc.Poll
import LatticeLtc.Commands
import LatticeLtc.Create
import LatticeLtc.Runs
import LatticeLtc.Tasks
