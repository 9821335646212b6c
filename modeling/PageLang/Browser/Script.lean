/-!
# The script of a page

A page in a browser brings a script with it that holds the state, runs actions and renders the
template again after each. It is fixed text but for the id of the element that it renders into.
-/

namespace PageLang.Browser

/-- What the script starts with after the id. -/
def setup : List String := [
  "  var root = document.getElementById(ROOT_ID);",
  "  var island = document.getElementById(ROOT_ID + \"-program\");",
  "  if (!root || !island) \x7b",
  "    return;",
  "  \x7d",
  "",
  "  var program = JSON.parse(island.textContent);",
  "  var template = program.template.segments;",
  "  var actions = program.actions || \x7b\x7d;",
  "  var initial = copy(program.state);",
  "  var state = copy(program.state);",
  "  var busy = false;",
  "  var queue = [];",
  "",
  "  function copy(values) \x7b",
  "    var out = Object.create(null);",
  "    Object.keys(values).forEach(function (key) \x7b",
  "      out[key] = values[key];",
  "    \x7d);",
  "    return out;",
  "  \x7d",
  "",
  "  function has(values, name) \x7b",
  "    return Object.prototype.hasOwnProperty.call(values, name);",
  "  \x7d",
  "",
  "  function ActionError(kind, message) \x7b",
  "    this.name = \"ActionError\";",
  "    this.kind = kind;",
  "    this.message = message;",
  "  \x7d",
  "  ActionError.prototype = Object.create(Error.prototype);",
  ""]

/-- The values of entries and how they are shown. -/
def values : List String := [
  "  // Values",
  "",
  "  function formatValue(value) \x7b",
  "    if (typeof value === \"number\" && isFinite(value) && Math.floor(value) === value && Math.abs(value) < 1e15) \x7b",
  "      return String(Math.trunc(value));",
  "    \x7d",
  "    return String(value);",
  "  \x7d",
  "",
  "  var MARKER = /\\\x7b([A-Za-z_][A-Za-z0-9_]*)\\\x7d/g;",
  "",
  "  function fillMarkers(text) \x7b",
  "    return text.replace(MARKER, function (marker, name) \x7b",
  "      return has(state, name) ? formatValue(state[name]) : marker;",
  "    \x7d);",
  "  \x7d",
  "",
  "  function neutralizeUrl(url) \x7b",
  "    var scheme = url.replace(/[\\s\\u0000-\\u001f\\u007f-\\u009f]/g, \"\").slice(0, 11).toLowerCase();",
  "    return /^(javascript|vbscript):/.test(scheme) ? \"#\" : url;",
  "  \x7d",
  "",
  "  function escapeHtml(text) \x7b",
  "    return String(text)",
  "      .replace(/&/g, \"&amp;\")",
  "      .replace(/</g, \"&lt;\")",
  "      .replace(/>/g, \"&gt;\")",
  "      .replace(/\"/g, \"&quot;\")",
  "      .replace(/'/g, \"&#39;\");",
  "  \x7d",
  "",
  "  function truthy(value) \x7b",
  "    if (typeof value === \"number\") \x7b",
  "      return value !== 0 && !isNaN(value);",
  "    \x7d",
  "    return typeof value === \"string\" ? value.length > 0 : !!value;",
  "  \x7d",
  "",
  "  function typeName(value) \x7b",
  "    return typeof value === \"boolean\" ? \"boolean\" : typeof value === \"number\" ? \"number\" : \"string\";",
  "  \x7d",
  "",
  "  function number(value, context) \x7b",
  "    if (typeof value !== \"number\") \x7b",
  "      throw new ActionError(\"TypeMismatch\", context + \" expects a number, got \" + typeName(value));",
  "    \x7d",
  "    return value;",
  "  \x7d",
  "",
  "  function read(values, name) \x7b",
  "    if (!has(values, name)) \x7b",
  "      throw new ActionError(\"UnknownState\", \"Unknown state '\" + name + \"'\");",
  "    \x7d",
  "    return values[name];",
  "  \x7d",
  "",
  "  function write(values, name, value) \x7b",
  "    read(values, name);",
  "    values[name] = value;",
  "  \x7d",
  ""]

/-- The evaluation of expressions and statements. -/
def evaluation : List String := [
  "  // Evaluation",
  "",
  "  var SYMBOLS = \x7b",
  "    Add: \"+\", Subtract: \"-\", Multiply: \"*\", Divide: \"/\", Remainder: \"%\",",
  "    Equals: \"==\", NotEquals: \"!=\", LessThan: \"<\", LessThanOrEqual: \"<=\",",
  "    GreaterThan: \">\", GreaterThanOrEqual: \">=\", And: \"&&\", Or: \"||\"",
  "  \x7d;",
  "",
  "  function applyBinary(op, left, right) \x7b",
  "    switch (op) \x7b",
  "      case \"Add\":",
  "        if (typeof left === \"number\" && typeof right === \"number\") \x7b",
  "          return left + right;",
  "        \x7d",
  "        if (typeof left === \"string\" || typeof right === \"string\") \x7b",
  "          return formatValue(left) + formatValue(right);",
  "        \x7d",
  "        throw new ActionError(\"TypeMismatch\", \"cannot add \" + typeName(left) + \" and \" + typeName(right));",
  "      case \"Subtract\":",
  "      case \"Multiply\":",
  "      case \"Divide\":",
  "      case \"Remainder\":",
  "        var a = number(left, SYMBOLS[op]);",
  "        var b = number(right, SYMBOLS[op]);",
  "        if (op === \"Subtract\") return a - b;",
  "        if (op === \"Multiply\") return a * b;",
  "        if (b === 0) throw new ActionError(\"DivisionByZero\", \"Division by zero\");",
  "        return op === \"Divide\" ? a / b : a % b;",
  "      case \"Equals\":",
  "        return left === right;",
  "      case \"NotEquals\":",
  "        return left !== right;",
  "      case \"LessThan\":",
  "      case \"LessThanOrEqual\":",
  "      case \"GreaterThan\":",
  "      case \"GreaterThanOrEqual\":",
  "        if (typeName(left) !== typeName(right) || typeof left === \"boolean\") \x7b",
  "          throw new ActionError(\"TypeMismatch\",",
  "            \"cannot compare \" + typeName(left) + \" \" + SYMBOLS[op] + \" \" + typeName(right));",
  "        \x7d",
  "        if (op === \"LessThan\") return left < right;",
  "        if (op === \"LessThanOrEqual\") return left <= right;",
  "        if (op === \"GreaterThan\") return left > right;",
  "        return left >= right;",
  "      case \"And\":",
  "        return truthy(left) && truthy(right);",
  "      case \"Or\":",
  "        return truthy(left) || truthy(right);",
  "    \x7d",
  "    throw new ActionError(\"Syntax\", \"unknown operator \" + op);",
  "  \x7d",
  "",
  "  function single(name, args) \x7b",
  "    if (args.length !== 1) \x7b",
  "      throw new ActionError(\"Arity\", \"Function '\" + name + \"' expects 1 argument(s), got \" + args.length);",
  "    \x7d",
  "    return args[0];",
  "  \x7d",
  "",
  "  var FUNCTIONS = \x7b",
  "    min: function (args) \x7b return extremum(\"min\", args); \x7d,",
  "    max: function (args) \x7b return extremum(\"max\", args); \x7d,",
  "    abs: function (args) \x7b return Math.abs(number(single(\"abs\", args), \"abs\")); \x7d,",
  "    round: function (args) \x7b return Math.floor(number(single(\"round\", args), \"round\") + 0.5); \x7d,",
  "    len: function (args) \x7b",
  "      var value = single(\"len\", args);",
  "      if (typeof value !== \"string\") \x7b",
  "        throw new ActionError(\"TypeMismatch\", \"len expects a string, got \" + typeName(value));",
  "      \x7d",
  "      return Array.from(value).length;",
  "    \x7d,",
  "    upper: function (args) \x7b return formatValue(single(\"upper\", args)).toUpperCase(); \x7d,",
  "    lower: function (args) \x7b return formatValue(single(\"lower\", args)).toLowerCase(); \x7d",
  "  \x7d;",
  "",
  "  function extremum(name, args) \x7b",
  "    if (args.length === 0) \x7b",
  "      throw new ActionError(\"Arity\", \"Function '\" + name + \"' expects at least 1 argument(s), got 0\");",
  "    \x7d",
  "    var result = number(args[0], name);",
  "    for (var i = 1; i < args.length; i++) \x7b",
  "      result = Math[name](result, number(args[i], name));",
  "    \x7d",
  "    return result;",
  "  \x7d",
  "",
  "  function evaluate(expr, values) \x7b",
  "    switch (expr.type) \x7b",
  "      case \"Number\":",
  "      case \"String\":",
  "      case \"Boolean\":",
  "        return expr.value;",
  "      case \"Variable\":",
  "        return read(values, expr.name);",
  "      case \"Unary\":",
  "        var operand = evaluate(expr.operand, values);",
  "        return expr.operator === \"Not\" ? !truthy(operand) : -number(operand, \"unary -\");",
  "      case \"Binary\":",
  "        if (expr.operator === \"And\") \x7b",
  "          return truthy(evaluate(expr.left, values)) && truthy(evaluate(expr.right, values));",
  "        \x7d",
  "        if (expr.operator === \"Or\") \x7b",
  "          return truthy(evaluate(expr.left, values)) || truthy(evaluate(expr.right, values));",
  "        \x7d",
  "        return applyBinary(expr.operator, evaluate(expr.left, values), evaluate(expr.right, values));",
  "      case \"Call\":",
  "        var fn = has(FUNCTIONS, expr.function) ? FUNCTIONS[expr.function] : null;",
  "        if (!fn) \x7b",
  "          throw new ActionError(\"UnknownFunction\", \"Unknown function '\" + expr.function + \"'\");",
  "        \x7d",
  "        return fn(expr.arguments.map(function (arg) \x7b return evaluate(arg, values); \x7d));",
  "    \x7d",
  "    throw new ActionError(\"Syntax\", \"unknown expression \" + expr.type);",
  "  \x7d",
  "",
  "  function executeStatement(statement, values) \x7b",
  "    switch (statement.type) \x7b",
  "      case \"Assign\":",
  "        read(values, statement.target);",
  "        write(values, statement.target, evaluate(statement.value, values));",
  "        return;",
  "      case \"Compound\":",
  "        var current = read(values, statement.target);",
  "        write(values, statement.target, applyBinary(statement.operator, current, evaluate(statement.value, values)));",
  "        return;",
  "      case \"Increment\":",
  "      case \"Decrement\":",
  "        var n = number(read(values, statement.target), statement.target);",
  "        write(values, statement.target, statement.type === \"Increment\" ? n + 1 : n - 1);",
  "        return;",
  "      case \"Call\":",
  "        var args = statement.arguments;",
  "        if (args.length !== 1) \x7b",
  "          throw new ActionError(\"Arity\",",
  "            \"Function '\" + statement.function + \"' expects 1 argument(s), got \" + args.length);",
  "        \x7d",
  "        if (args[0].type !== \"Variable\") \x7b",
  "          throw new ActionError(\"TypeMismatch\", statement.function + \" expects a state name\");",
  "        \x7d",
  "        var target = args[0].name;",
  "        if (statement.function === \"toggle\") \x7b",
  "          write(values, target, !truthy(read(values, target)));",
  "        \x7d else if (statement.function === \"reset\") \x7b",
  "          write(values, target, read(initial, target));",
  "        \x7d else \x7b",
  "          throw new ActionError(\"UnknownFunction\", \"Unknown function '\" + statement.function + \"'\");",
  "        \x7d",
  "        return;",
  "    \x7d",
  "    throw new ActionError(\"Syntax\", \"unknown statement \" + statement.type);",
  "  \x7d",
  "",
  "  function execute(compiled) \x7b",
  "    var scratch = copy(state);",
  "    compiled.statements.forEach(function (statement) \x7b",
  "      executeStatement(statement, scratch);",
  "    \x7d);",
  "    state = scratch;",
  "  \x7d",
  ""]

/-- The parser for actions that are not on the page. -/
def parsing : List String := [
  "  // Parsing for actions not compiled into the page",
  "",
  "  var TOKEN = /\\s*(?:(\\d+(?:\\.\\d+)?)|(\"(?:[^\"\\\\]|\\\\.)*\"|'(?:[^'\\\\]|\\\\.)*')|([A-Za-z_][A-Za-z0-9_]*)|(\\+\\+|--|\\+=|-=|\\*=|\\/=|==|!=|<=|>=|&&|\\|\\||[-+*\\/%=<>!(),;.]))/y;",
  "",
  "  function tokenize(source) \x7b",
  "    var tokens = [];",
  "    var pos = 0;",
  "    TOKEN.lastIndex = 0;",
  "    while (pos < source.length) \x7b",
  "      if (/^\\s*$/.test(source.slice(pos))) break;",
  "      TOKEN.lastIndex = pos;",
  "      var m = TOKEN.exec(source);",
  "      if (!m) \x7b",
  "        throw new ActionError(\"Syntax\", \"Syntax error in action '\" + source + \"': unexpected character at \" + pos);",
  "      \x7d",
  "      pos = TOKEN.lastIndex;",
  "      if (m[1] !== undefined) tokens.push(\x7b kind: \"number\", value: parseFloat(m[1]) \x7d);",
  "      else if (m[2] !== undefined) tokens.push(\x7b kind: \"string\", value: unescape(m[2].slice(1, -1)) \x7d);",
  "      else if (m[3] !== undefined) tokens.push(\x7b kind: \"ident\", value: m[3] \x7d);",
  "      else tokens.push(\x7b kind: \"op\", value: m[4] \x7d);",
  "    \x7d",
  "    return tokens;",
  "  \x7d",
  "",
  "  function unescape(raw) \x7b",
  "    return raw.replace(/\\\\(.?)/g, function (_, c) \x7b",
  "      return c === \"n\" ? \"\\n\" : c === \"t\" ? \"\\t\" : c === \"\" ? \"\\\\\" : c;",
  "    \x7d);",
  "  \x7d",
  "",
  "  var MAX_NESTING = 64;",
  "",
  "  function parse(source) \x7b",
  "    var tokens = tokenize(source);",
  "    var i = 0;",
  "    var depth = 0;",
  "",
  "    function fail(message) \x7b",
  "      throw new ActionError(\"Syntax\", \"Syntax error in action '\" + source + \"': \" + message);",
  "    \x7d",
  "    function peek(offset) \x7b return tokens[i + (offset || 0)]; \x7d",
  "    function isOp(value, offset) \x7b",
  "      var t = peek(offset);",
  "      return !!t && t.kind === \"op\" && t.value === value;",
  "    \x7d",
  "    function eat(value) \x7b",
  "      if (isOp(value)) \x7b i++; return true; \x7d",
  "      return false;",
  "    \x7d",
  "    function expect(value) \x7b",
  "      if (!eat(value)) fail(\"expected '\" + value + \"'\");",
  "    \x7d",
  "    function nest() \x7b",
  "      if (++depth > MAX_NESTING) fail(\"expression nested more than \" + MAX_NESTING + \" levels deep\");",
  "    \x7d",
  "    function ident() \x7b",
  "      var t = peek();",
  "      if (!t || t.kind !== \"ident\" || t.value === \"true\" || t.value === \"false\") fail(\"expected identifier\");",
  "      i++;",
  "      return t.value;",
  "    \x7d",
  "    function statePrefix() \x7b",
  "      var t = peek();",
  "      return !!t && t.kind === \"ident\" && t.value === \"state\" && isOp(\".\", 1);",
  "    \x7d",
  "    function target() \x7b",
  "      if (statePrefix()) i += 2;",
  "      return ident();",
  "    \x7d",
  "    function args() \x7b",
  "      expect(\"(\");",
  "      var out = [];",
  "      if (!eat(\")\")) \x7b",
  "        do \x7b out.push(expression()); \x7d while (eat(\",\"));",
  "        expect(\")\");",
  "      \x7d",
  "      return out;",
  "    \x7d",
  "    function binaryLevel(next, ops) \x7b",
  "      return function () \x7b",
  "        var mark = depth;",
  "        var left = next();",
  "        for (;;) \x7b",
  "          var t = peek();",
  "          if (!t || t.kind !== \"op\" || !has(ops, t.value)) \x7b",
  "            depth = mark;",
  "            return left;",
  "          \x7d",
  "          i++;",
  "          nest();",
  "          left = \x7b type: \"Binary\", left: left, operator: ops[t.value], right: next() \x7d;",
  "        \x7d",
  "      \x7d;",
  "    \x7d",
  "    function unary() \x7b",
  "      var operator = eat(\"!\") ? \"Not\" : eat(\"-\") ? \"Negate\" : null;",
  "      if (!operator) return primary();",
  "      nest();",
  "      var operand = unary();",
  "      depth--;",
  "      return \x7b type: \"Unary\", operator: operator, operand: operand \x7d;",
  "    \x7d",
  "    function primary() \x7b",
  "      var t = peek();",
  "      if (!t) fail(\"unexpected end of input\");",
  "      if (t.kind === \"number\") \x7b i++; return \x7b type: \"Number\", value: t.value \x7d; \x7d",
  "      if (t.kind === \"string\") \x7b i++; return \x7b type: \"String\", value: t.value \x7d; \x7d",
  "      if (t.kind === \"ident\" && (t.value === \"true\" || t.value === \"false\")) \x7b",
  "        i++;",
  "        return \x7b type: \"Boolean\", value: t.value === \"true\" \x7d;",
  "      \x7d",
  "      if (eat(\"(\")) \x7b",
  "        var inner = expression();",
  "        expect(\")\");",
  "        return inner;",
  "      \x7d",
  "      if (t.kind === \"ident\" && !statePrefix() && isOp(\"(\", 1)) \x7b",
  "        i++;",
  "        return \x7b type: \"Call\", function: t.value, arguments: args() \x7d;",
  "      \x7d",
  "      return \x7b type: \"Variable\", name: target() \x7d;",
  "    \x7d",
  "    var multiplicative = binaryLevel(unary, \x7b \"*\": \"Multiply\", \"/\": \"Divide\", \"%\": \"Remainder\" \x7d);",
  "    var additive = binaryLevel(multiplicative, \x7b \"+\": \"Add\", \"-\": \"Subtract\" \x7d);",
  "    var comparison = binaryLevel(additive, \x7b",
  "      \"<\": \"LessThan\", \"<=\": \"LessThanOrEqual\", \">\": \"GreaterThan\", \">=\": \"GreaterThanOrEqual\"",
  "    \x7d);",
  "    var equality = binaryLevel(comparison, \x7b \"==\": \"Equals\", \"!=\": \"NotEquals\" \x7d);",
  "    var and = binaryLevel(equality, \x7b \"&&\": \"And\" \x7d);",
  "    var or = binaryLevel(and, \x7b \"||\": \"Or\" \x7d);",
  "",
  "    function expression() \x7b",
  "      nest();",
  "      var result = or();",
  "      depth--;",
  "      return result;",
  "    \x7d",
  "",
  "    var COMPOUND = \x7b \"+=\": \"Add\", \"-=\": \"Subtract\", \"*=\": \"Multiply\", \"/=\": \"Divide\" \x7d;",
  "",
  "    function statement() \x7b",
  "      if (eat(\"++\")) return \x7b type: \"Increment\", target: target() \x7d;",
  "      if (eat(\"--\")) return \x7b type: \"Decrement\", target: target() \x7d;",
  "      var qualified = statePrefix();",
  "      var name = target();",
  "      var t = peek();",
  "      var op = t && t.kind === \"op\" ? t.value : null;",
  "      if (op === \"=\") \x7b i++; return \x7b type: \"Assign\", target: name, value: expression() \x7d; \x7d",
  "      if (has(COMPOUND, op)) \x7b",
  "        i++;",
  "        return \x7b type: \"Compound\", target: name, operator: COMPOUND[op], value: expression() \x7d;",
  "      \x7d",
  "      if (op === \"++\") \x7b i++; return \x7b type: \"Increment\", target: name \x7d; \x7d",
  "      if (op === \"--\") \x7b i++; return \x7b type: \"Decrement\", target: name \x7d; \x7d",
  "      if (op === \"(\" && !qualified) return \x7b type: \"Call\", function: name, arguments: args() \x7d;",
  "      fail(\"expected an assignment, increment or call on '\" + name + \"'\");",
  "    \x7d",
  "",
  "    var statements = [];",
  "    while (i < tokens.length) \x7b",
  "      statements.push(statement());",
  "      if (!eat(\";\")) break;",
  "      while (eat(\";\")) \x7b\x7d",
  "    \x7d",
  "    if (i < tokens.length) fail(\"unexpected trailing input\");",
  "    if (statements.length === 0) fail(\"expected statement\");",
  "    return \x7b source: source.trim(), statements: statements \x7d;",
  "  \x7d",
  ""]

/-- The rendering of the template. -/
def rendering : List String := [
  "  // Rendering",
  "",
  "  function renderSegments(segments, out) \x7b",
  "    segments.forEach(function (segment) \x7b",
  "      switch (segment.type) \x7b",
  "        case \"Static\":",
  "          out.push(segment.html);",
  "          break;",
  "        case \"Text\":",
  "          out.push(escapeHtml(has(state, segment.name)",
  "            ? formatValue(state[segment.name])",
  "            : \"\x7b\" + segment.name + \"\x7d\"));",
  "          break;",
  "        case \"Url\":",
  "          out.push(escapeHtml(neutralizeUrl(fillMarkers(segment.value))));",
  "          break;",
  "        case \"If\":",
  "          var shown = false;",
  "          try \x7b",
  "            shown = truthy(evaluate(segment.condition, state));",
  "          \x7d catch (err) \x7b",
  "            report(\"condition\", err);",
  "          \x7d",
  "          if (shown) renderSegments(segment.body, out);",
  "          break;",
  "        case \"Checked\":",
  "          if (truthy(state[segment.name])) out.push(\" checked\");",
  "          break;",
  "        case \"Selected\":",
  "          if (has(state, segment.name) && formatValue(state[segment.name]) === segment.option) \x7b",
  "            out.push(\" selected\");",
  "          \x7d",
  "          break;",
  "      \x7d",
  "    \x7d);",
  "  \x7d",
  "",
  "  function render() \x7b",
  "    var active = document.activeElement;",
  "    var focusId = active && root.contains(active) ? active.id : null;",
  "    var caret = null;",
  "    if (focusId && typeof active.selectionStart === \"number\") \x7b",
  "      caret = [active.selectionStart, active.selectionEnd];",
  "    \x7d",
  "",
  "    var out = [];",
  "    renderSegments(template, out);",
  "    root.innerHTML = out.join(\"\");",
  "",
  "    if (focusId) \x7b",
  "      var next = document.getElementById(focusId);",
  "      if (next) \x7b",
  "        next.focus();",
  "        if (caret && typeof next.setSelectionRange === \"function\") \x7b",
  "          try \x7b",
  "            next.setSelectionRange(caret[0], caret[1]);",
  "          \x7d catch (_) \x7b\x7d",
  "        \x7d",
  "      \x7d",
  "    \x7d",
  "  \x7d",
  ""]

/-- The events of the page and its interface. -/
def dispatch : List String := [
  "  // Dispatch",
  "",
  "  function report(action, err) \x7b",
  "    var api = window.qcl;",
  "    if (api && typeof api.onError === \"function\") \x7b",
  "      api.onError(action, err);",
  "    \x7d else \x7b",
  "      console.error(\"[qcl] action failed: \" + action, err);",
  "    \x7d",
  "  \x7d",
  "",
  "  function perform(job) \x7b",
  "    queue.push(job);",
  "    if (busy) return;",
  "    busy = true;",
  "    try \x7b",
  "      while (queue.length) \x7b",
  "        var next = queue.shift();",
  "        try \x7b",
  "          next.run();",
  "        \x7d catch (err) \x7b",
  "          report(next.label, err);",
  "        \x7d",
  "        render();",
  "      \x7d",
  "    \x7d finally \x7b",
  "      busy = false;",
  "    \x7d",
  "  \x7d",
  "",
  "  function run(source) \x7b",
  "    var key = String(source).trim();",
  "    perform(\x7b",
  "      label: key,",
  "      run: function () \x7b",
  "        var compiled = has(actions, key) ? actions[key] : null;",
  "        if (compiled && compiled.error !== undefined) \x7b",
  "          throw new ActionError(\"Syntax\", \"Syntax error in action '\" + key + \"': \" + compiled.error);",
  "        \x7d",
  "        execute(compiled ? compiled.program : parse(key));",
  "      \x7d",
  "    \x7d);",
  "  \x7d",
  "",
  "  function bind(name, raw) \x7b",
  "    perform(\x7b",
  "      label: \"bind \" + name,",
  "      run: function () \x7b",
  "        var current = read(state, name);",
  "        var value = String(raw);",
  "        if (typeof current === \"number\" && value.trim() !== \"\" && isFinite(Number(value))) \x7b",
  "          write(state, name, Number(value));",
  "        \x7d else \x7b",
  "          write(state, name, value);",
  "        \x7d",
  "      \x7d",
  "    \x7d);",
  "  \x7d",
  "",
  "  function bindChecked(name, checked) \x7b",
  "    perform(\x7b",
  "      label: \"bind \" + name,",
  "      run: function () \x7b",
  "        write(state, name, !!checked);",
  "      \x7d",
  "    \x7d);",
  "  \x7d",
  "",
  "  root.addEventListener(\"click\", function (event) \x7b",
  "    var control = event.target.closest(\"[data-qcl-action]\");",
  "    if (control && root.contains(control)) \x7b",
  "      run(control.getAttribute(\"data-qcl-action\"));",
  "    \x7d",
  "  \x7d);",
  "",
  "  function onEdit(event) \x7b",
  "    var control = event.target.closest(\"[data-qcl-bind]\");",
  "    if (!control || !root.contains(control)) return;",
  "    var name = control.getAttribute(\"data-qcl-bind\");",
  "    if (control.type === \"checkbox\") \x7b",
  "      if (event.type === \"change\") bindChecked(name, control.checked);",
  "    \x7d else \x7b",
  "      bind(name, control.value);",
  "    \x7d",
  "  \x7d",
  "",
  "  root.addEventListener(\"input\", onEdit);",
  "  root.addEventListener(\"change\", function (event) \x7b",
  "    if (event.target.type === \"checkbox\" || event.target.tagName === \"SELECT\") \x7b",
  "      onEdit(event);",
  "    \x7d",
  "  \x7d);",
  "",
  "  window.qcl = \x7b",
  "    run: run,",
  "    render: render,",
  "    bind: bind,",
  "    state: function () \x7b return copy(state); \x7d,",
  "    onError: window.qcl && window.qcl.onError",
  "  \x7d;",
  "\x7d)();"]

/-- The line that names the element; `literal` is its id as a string literal. -/
def rootLine (literal : String) : String := "  var ROOT_ID = " ++ literal ++ ";"

/-- The lines of the script. -/
def scriptLines (literal : String) : List String :=
  ["(function () \x7b", "  \"use strict\";", "", rootLine literal]
    ++ setup ++ values ++ evaluation ++ parsing ++ rendering ++ dispatch

/-- The script. -/
def script (literal : String) : String :=
  String.join ((scriptLines literal).map (· ++ "\n"))

end PageLang.Browser
